import HeaderProbe.Proofs.Catalog.Output
import HeaderProbe.Proofs.Pattern.Uncaptured
import HeaderProbe.Proofs.Query.DefineLine
import HeaderProbe.Proofs.Query.Fragment
import HeaderProbe.Proofs.Query.Grammar
import HeaderProbe.Proofs.Query.Logic

namespace HeaderProbe

def FileRef.withLiteral (text : Text) : FileRef → FileRef
  | .literal _ label => .literal text label
  | .path p => .path p

namespace Query

def withLiteral (q : Query) (text : Text) : Query :=
  { q with files := q.files.map (FileRef.withLiteral text) }

theorem Written.withLiteral {u label : Text} {q : Query} {words : List Text}
    (h : q.Written (some u) label words) (text : Text) :
    (q.withLiteral text).Written (some text) label words := by
  obtain ⟨subject, test, files, hwords, hdefine, hsubject, htest, hfiles, hne⟩ := h
  refine ⟨subject, test, files, hwords, hdefine, hsubject, htest, ?_, hne⟩
  rw [Query.withLiteral, List.forall₂_map_left_iff]
  refine hfiles.imp fun f w hf => ?_
  cases hf with
  | path hw => exact .path hw
  | literal _ => exact .literal rfl

theorem ofLine_withLiteral {line u label : Text} {q : Query}
    (h : Query.ofLine line (some u) label = .ok q) (text : Text) :
    Query.ofLine line (some text) label = .ok (q.withLiteral text) := by
  unfold ofLine at h ⊢
  split at h
  · exact ofWords_eq_ok_iff.2 ((ofWords_eq_ok_iff.1 h).withLiteral text)
  · cases h

def isUncaptured (q : Query) : Bool :=
  q.test.pattern?.all fun p => p.root.isUncaptured

def definition? (q : Query) (root : Text) (t : Tree) : Option (Text × Text) :=
  match (q.evaluate root t t).value with
  | .ok v => if v.holds then some (q.define, q.subject.print ++ ' ' :: v.evidence) else none
  | .error _ => none

variable {q : Query} {root : Text} {t : Tree} {d : Text × Text}

theorem output_generate (q : Query) (root : Text) (t : Tree) :
    (q.generate root t t).output = defineLines (q.definition? root t).toList := by
  unfold definition?
  cases h : (q.evaluate root t t).value with
  | error e => exact (generate_of_error h).2
  | ok v =>
    rw [(generate_of_ok h).2]
    dsimp only
    split
    · exact (List.append_nil _).symm
    · rfl

theorem isSome_definition?_iff : (q.definition? root t).isSome ↔ q.Holds root t := by
  unfold definition? Holds
  cases h : (q.evaluate root t t).value with
  | error e => simp [(generate_of_error h).1]
  | ok v =>
    rw [(generate_of_ok h).1]
    by_cases hv : v.holds = true <;> simp [hv]

theorem fst_of_definition? (h : q.definition? root t = some d) : d.1 = q.define := by
  unfold definition? at h
  split at h
  · split at h
    · cases h
      rfl
    · cases h
  · cases h

theorem crosses_of_isUncaptured (h : q.isUncaptured = true) (s : Span) : q.test.crosses s = false := by
  unfold Test.crosses
  unfold isUncaptured at h
  cases hp : q.test.pattern? with
  | none => rfl
  | some p =>
    rw [hp] at h
    rw [Option.any_some, Pattern.crosses]
    cases hhit : p.hit? s.text with
    | none => rfl
    | some hit => exact Pattern.isCrossed_of_isUncaptured h hhit

theorem exists_value_of_isUncaptured (h : q.isUncaptured = true) (root : Text) (t : Tree) :
    ∃ b, (q.generate root t t).value = .ok b := by
  obtain ⟨r, text, hemits⟩ := q.exists_emits root t t
  obtain ⟨hvalue, -⟩ := hemits.generate_eq
  cases hemits with
  | brokenOff _ hb =>
    obtain ⟨_, s, _, _, hs, _⟩ := hb
    rw [crosses_of_isUncaptured h] at hs
    cases hs
  | lost hlost => exact absurd hlost (q.subject.not_lost root t q.files _ _)
  | _ => exact ⟨_, hvalue⟩

end Query

namespace CatalogEntry

def query? (e : CatalogEntry) : Option Query :=
  (Query.ofLine e.query (e.fragment.map fun _ => []) (fragmentLabel e.fragment)).toOption

def define? (e : CatalogEntry) : Option Text :=
  e.query?.map Query.define

variable {e : CatalogEntry} {q : Query} {root : Text} {t : Tree}

theorem ofLine_of_query? {literal : Option Text} (hl : (e.fragment.map fun _ => []) = literal)
    (h : e.query? = some q) : Query.ofLine e.query literal (fragmentLabel e.fragment) = .ok q := by
  subst hl
  exact Outcome.eq_ok_of_toOption h

theorem emitted_of_ofLine {literal : Option Text} (hu : q.isUncaptured = true)
    (h : Query.ofLine e.query literal (fragmentLabel e.fragment) = .ok q) :
    e.emitted root t literal = .ok (defineLines (q.definition? root t).toList) := by
  obtain ⟨b, hb⟩ := q.exists_value_of_isUncaptured hu root t
  rw [emitted, h]
  dsimp only
  rw [hb, q.output_generate]
  rfl

end CatalogEntry

theorem Fragment.extracted_cases (f : Fragment) {kind : DeclKind} (h : f.kind = kind.word)
    (root : Text) (t : Tree) :
    f.extracted root t = .ok [] ∨
      ∃ text span, kind.find f.declaration text = some span ∧
        f.extracted root t = .ok span.text := by
  have hread : ∀ s ∈ (f.files.map FileRef.path).filterMap (FileRef.source? t root),
      ∃ x, s.read t = .ok x := by
    intro s hs
    obtain ⟨r, -, hr⟩ := List.mem_filterMap.1 hs
    exact read_of_source? hr
  rw [Fragment.extracted, h, value_extract]
  rcases firstMatch_declaration kind f.declaration hread with
    ⟨hnil, -⟩ | ⟨_, text, span, hspan, htext, -⟩
  · exact .inl hnil
  · exact .inr ⟨text, span, hspan, htext⟩

namespace CatalogGroup

structure WellFormed (g : CatalogGroup) : Prop where
  kinds : ∀ f ∈ g.fragments, (DeclKind.ofWord? f.kind).isSome = true
  fragments : ∀ e ∈ g.entries, ∀ name ∈ e.fragment, name ∈ g.fragments.map Fragment.name
  queries : ∀ e ∈ g.entries, e.query?.any Query.isUncaptured = true

instance (g : CatalogGroup) : Decidable g.WellFormed :=
  decidable_of_iff
    ((∀ f ∈ g.fragments, (DeclKind.ofWord? f.kind).isSome = true) ∧
      (∀ e ∈ g.entries, ∀ name ∈ e.fragment, name ∈ g.fragments.map Fragment.name) ∧
      ∀ e ∈ g.entries, e.query?.any Query.isUncaptured = true)
    ⟨fun h => ⟨h.1, h.2.1, h.2.2⟩, fun h => ⟨h.kinds, h.fragments, h.queries⟩⟩

def asked? (g : CatalogGroup) (root : Text) (t : Tree) (e : CatalogEntry) : Option Query :=
  match e.fragment with
  | none => e.query?
  | some name => do
      let text ← (← g.extracted? root t name).toOption
      return (← e.query?).withLiteral text

def definition? (g : CatalogGroup) (root : Text) (t : Tree) (e : CatalogEntry) :
    Option (Text × Text) :=
  (g.asked? root t e).bind fun q => q.definition? root t

variable {g : CatalogGroup} {e : CatalogEntry} {root : Text} {t : Tree}

theorem exists_extracted (f : Fragment) (h : (DeclKind.ofWord? f.kind).isSome = true)
    (root : Text) (t : Tree) : ∃ text, f.extracted root t = .ok text := by
  obtain ⟨kind, hkind⟩ := Option.isSome_iff_exists.1 h
  rcases f.extracted_cases (DeclKind.ofWord?_eq_some_iff.1 hkind) root t with
    hnil | ⟨_, span, -, htext⟩
  · exact ⟨[], hnil⟩
  · exact ⟨span.text, htext⟩

theorem exists_extracted?_eq {name : Text} (h : name ∈ g.fragments.map Fragment.name) (root : Text)
    (t : Tree) :
    ∃ f ∈ g.fragments, f.name = name ∧ g.extracted? root t name = some (f.extracted root t) := by
  obtain ⟨f, hf, rfl⟩ := List.mem_map.1 h
  cases hfind : g.fragments.reverse.find? fun d => d.name == f.name with
  | none =>
    have hnone := List.find?_eq_none.1 hfind f (List.mem_reverse.2 hf)
    simp at hnone
  | some d =>
    have hd : d ∈ g.fragments := List.mem_reverse.1 (List.mem_of_find?_eq_some hfind)
    have hname : d.name = f.name := by simpa using List.find?_some hfind
    exact ⟨d, hd, hname, by rw [extracted?, hfind, Option.map_some]⟩

theorem asked?_eq_some_iff {name : Text} (hname : e.fragment = some name) {q : Query} :
    g.asked? root t e = some q ↔
      ∃ text, g.extracted? root t name = some (.ok text) ∧
        ∃ p, e.query? = some p ∧ p.withLiteral text = q := by
  unfold asked?
  rw [hname]
  simp only [Option.bind_eq_bind, Option.bind_eq_some_iff]
  constructor
  · rintro ⟨extracted, hextracted, text, htext, p, hp, hq⟩
    obtain rfl := Outcome.eq_ok_of_toOption htext
    exact ⟨text, hextracted, p, hp, Option.some.inj hq⟩
  · rintro ⟨text, hextracted, p, hp, rfl⟩
    exact ⟨_, hextracted, text, rfl, p, hp, rfl⟩

namespace WellFormed

theorem exists_asked (h : g.WellFormed) (he : e ∈ g.entries) (root : Text) (t : Tree) :
    ∃ q, g.asked? root t e = some q ∧ e.define? = some q.define ∧
      g.emitted root t e = .ok (defineLines (q.definition? root t).toList) := by
  obtain ⟨q, hq, hu⟩ : ∃ q, e.query? = some q ∧ q.isUncaptured = true := by
    simpa [Option.any_eq_true] using h.queries e he
  have hdefine : e.define? = some q.define := by rw [CatalogEntry.define?, hq, Option.map_some]
  cases hfragment : e.fragment with
  | none =>
    have hread := CatalogEntry.ofLine_of_query? (by rw [hfragment, Option.map_none]) hq
    unfold asked? emitted
    rw [hfragment]
    exact ⟨q, hq, hdefine, CatalogEntry.emitted_of_ofLine hu hread⟩
  | some name =>
    have hread := CatalogEntry.ofLine_of_query? (by rw [hfragment, Option.map_some]) hq
    have hname := h.fragments e he name (Option.mem_def.2 hfragment)
    obtain ⟨f, hf, -, hextracted⟩ := exists_extracted?_eq hname root t
    obtain ⟨text, htext⟩ := exists_extracted f (h.kinds f hf) root t
    rw [htext] at hextracted
    refine ⟨q.withLiteral text, (asked?_eq_some_iff hfragment).2 ⟨text, hextracted, q, hq, rfl⟩,
      hdefine, ?_⟩
    unfold emitted
    rw [hfragment]
    dsimp only
    rw [hextracted]
    exact CatalogEntry.emitted_of_ofLine (q := q.withLiteral text) hu
      (Query.ofLine_withLiteral hread text)

theorem emitted_eq (h : g.WellFormed) (he : e ∈ g.entries) :
    g.emitted root t e = .ok (defineLines (g.definition? root t e).toList) := by
  obtain ⟨q, hq, -, hemitted⟩ := h.exists_asked he root t
  rw [hemitted, definition?, hq, Option.bind_some]

theorem sound (h : g.WellFormed) (root : Text) (t : Tree) : g.Sound root t :=
  ⟨fun f hf => exists_extracted f (h.kinds f hf) root t, fun _ he => ⟨_, h.emitted_eq he⟩⟩

theorem define?_of_definition? (h : g.WellFormed) (he : e ∈ g.entries) {d : Text × Text}
    (hd : g.definition? root t e = some d) : e.define? = some d.1 := by
  obtain ⟨q, hq, hdefine, -⟩ := h.exists_asked he root t
  rw [definition?, hq, Option.bind_some] at hd
  rw [hdefine, Query.fst_of_definition? hd]

end WellFormed

end CatalogGroup

theorem defineLines_append (ds es : List (Text × Text)) :
    defineLines (ds ++ es) = defineLines ds ++ defineLines es :=
  List.flatMap_append

theorem defineLines_filterMap {α : Type} (f : α → Option (Text × Text)) (l : List α) :
    defineLines (l.filterMap f) = l.flatMap fun a => defineLines (f a).toList := by
  induction l with
  | nil => rfl
  | cons a l ih =>
    rw [List.flatMap_cons, ← ih, ← defineLines_append, List.filterMap_cons]
    cases f a <;> rfl

theorem sublist_filterMap_of_agree {α β γ : Type} {f : α → Option β} {g : α → Option γ} {k : β → γ}
    {l : List α} (h : ∀ a ∈ l, ∀ b, f a = some b → g a = some (k b)) :
    ((l.filterMap f).map k).Sublist (l.filterMap g) := by
  induction l with
  | nil => exact .refl _
  | cons a l ih =>
    have hrest := ih fun b hb => h b (List.mem_cons_of_mem a hb)
    cases hf : f a with
    | none =>
      rw [List.filterMap_cons_none hf]
      cases hg : g a with
      | none => rwa [List.filterMap_cons_none hg]
      | some c =>
        rw [List.filterMap_cons_some hg]
        exact hrest.cons c
    | some b =>
      rw [List.filterMap_cons_some hf, List.filterMap_cons_some (h a (List.mem_cons_self ..) b hf)]
      exact hrest.cons_cons (k b)

namespace Catalog

def WellFormed (c : Catalog) : Prop :=
  ∀ g ∈ c, g.WellFormed

instance (c : Catalog) : Decidable c.WellFormed :=
  inferInstanceAs (Decidable (∀ g ∈ c, g.WellFormed))

def defines (c : Catalog) : List Text :=
  c.flatMap fun g => g.entries.filterMap CatalogEntry.define?

def definitions (c : Catalog) (s : Settings) (config : Text) (t : Tree) : List (Text × Text) :=
  (c.filter fun g => g.Runs s config t).flatMap fun g =>
    g.entries.filterMap (g.definition? s.rootPath t)

variable {c : Catalog} {s : Settings} {config : Text} {t : Tree}

theorem WellFormed.sound (h : c.WellFormed) : c.Sound s config t :=
  fun g hg _ => (h g hg).sound s.rootPath t

theorem WellFormed.written_items (h : c.WellFormed) :
    Items.written (c.items s config t) = defineLines (c.definitions s config t) := by
  have hentries : ∀ g ∈ c.filter fun g => g.Runs s config t,
      (g.entries.flatMap fun e => Items.text (g.emitted s.rootPath t e)) =
        defineLines (g.entries.filterMap (g.definition? s.rootPath t)) := by
    intro g hg
    rw [defineLines_filterMap]
    refine List.flatMap_congr fun e he => ?_
    rw [(h g (List.mem_filter.1 hg).1).emitted_eq he]
    rfl
  rw [Catalog.written_items h.sound, List.flatMap_congr hentries, definitions, defineLines,
    List.flatMap_assoc]
  rfl

theorem WellFormed.sublist_defines (h : c.WellFormed) (s : Settings) (config : Text) (t : Tree) :
    ((c.definitions s config t).map Prod.fst).Sublist c.defines := by
  induction c with
  | nil => exact .refl _
  | cons g c ih =>
    obtain ⟨hg, hc⟩ := List.forall_mem_cons.1 h
    have hgroup : ((g.entries.filterMap (g.definition? s.rootPath t)).map Prod.fst).Sublist
        (g.entries.filterMap CatalogEntry.define?) :=
      sublist_filterMap_of_agree fun e he d hd => hg.define?_of_definition? he hd
    rw [defines, List.flatMap_cons, definitions, List.filter_cons]
    split
    · rw [List.flatMap_cons, List.map_append]
      exact hgroup.append (ih hc)
    · exact (ih hc).trans (List.sublist_append_right ..)

theorem WellFormed.mem_definitions_iff (h : c.WellFormed) {m : Text} :
    m ∈ (c.definitions s config t).map Prod.fst ↔
      ∃ g ∈ c, g.Runs s config t ∧ ∃ e ∈ g.entries, e.define? = some m ∧
        ∃ q, g.asked? s.rootPath t e = some q ∧ q.Holds s.rootPath t := by
  simp only [definitions, List.mem_map, List.mem_flatMap, List.mem_filter, List.mem_filterMap,
    decide_eq_true_iff]
  constructor
  · rintro ⟨d, ⟨g, ⟨hg, hruns⟩, e, he, hd⟩, rfl⟩
    refine ⟨g, hg, hruns, e, he, (h g hg).define?_of_definition? he hd, ?_⟩
    obtain ⟨q, hq, hdefinition⟩ := Option.bind_eq_some_iff.1 hd
    exact ⟨q, hq, Query.isSome_definition?_iff.1 (by rw [hdefinition]; rfl)⟩
  · rintro ⟨g, hg, hruns, e, he, hm, q, hq, hholds⟩
    obtain ⟨d, hd⟩ := Option.isSome_iff_exists.1 (Query.isSome_definition?_iff.2 hholds)
    have hdefinition : g.definition? s.rootPath t e = some d := by
      rw [CatalogGroup.definition?, hq, Option.bind_some, hd]
    refine ⟨d, ⟨g, ⟨hg, hruns⟩, e, he, hdefinition⟩, ?_⟩
    have hname := (h g hg).define?_of_definition? he hdefinition
    rw [hm] at hname
    exact (Option.some.inj hname).symm

theorem WellFormed.run_eq (h : c.WellFormed) (s : Settings) (config : Text) (t : Tree) :
    (Catalog.run s config t c).error? = none ∧
      (Catalog.run s config t c).output = defineLines (c.definitions s config t) := by
  have hperforms := Catalog.performs_run s config t c
  exact ⟨hperforms.error.trans (Catalog.failure?_items.2 h.sound),
    hperforms.output.trans h.written_items⟩

end Catalog

end HeaderProbe
