import HeaderProbe.Proofs.Catalog.Defines

namespace HeaderProbe

namespace Test

def isPresence : Test → Bool
  | presence => true
  | _ => false

def isAbsent : Test → Bool
  | absent => true
  | _ => false

theorem eq_presence {t : Test} (h : t.isPresence = true) : t = .presence := by
  cases t <;> first | rfl | cases h

theorem ne_absent {t : Test} (h : t.isAbsent = false) : t ≠ .absent := by
  rintro rfl
  cases h

end Test

def FileRef.isLiteral : FileRef → Bool
  | .literal .. => true
  | .path _ => false

namespace Subject

theorem spans_nil (s : Subject) : s.spans [] = [] := by
  cases s with
  | declaration kind name =>
    cases kind with
    | function => cases name <;> rfl
    | _ => rfl
  | member field type => rfl
  | initializer field type which => cases which <;> rfl

variable {s : Subject} {root text : Text} {seen now : Tree} {files before : List FileRef} {f : FileRef}
  {spans : List Span}

theorem spansAt?_withLiteral (hf : f.isLiteral = true) (text : Text) :
    s.spansAt? root seen now (f.withLiteral text) = some (s.spans text) := by
  cases f with
  | literal _ label => rfl
  | path p => cases hf

theorem Decided.spans_eq (h : s.Decided root seen now (files.map (FileRef.withLiteral text)) before f spans)
    (hl : ∀ r ∈ files, r.isLiteral = true) : s.spans text = spans := by
  have hmem : f ∈ files.map (FileRef.withLiteral text) := h.listed.subset (by simp)
  obtain ⟨r, hr, rfl⟩ := List.mem_map.1 hmem
  have hfound := h.found
  rw [spansAt?_withLiteral (hl r hr)] at hfound
  exact Option.some.inj hfound

theorem decided_withLiteral (root : Text) (seen now : Tree)
    (hl : ∀ r ∈ files, r.isLiteral = true) (hne : files ≠ []) (hspans : s.spans text ≠ []) :
    ∃ f, s.Decided root seen now (files.map (FileRef.withLiteral text)) [] f (s.spans text) := by
  obtain ⟨r, rest, rfl⟩ := List.exists_cons_of_ne_nil hne
  refine ⟨r.withLiteral text, ?_, ?_, spansAt?_withLiteral (hl r (List.mem_cons_self ..)) text, hspans⟩
  · simp
  · simp [Undecided]

end Subject

namespace Query

variable {q p : Query} {root : Text} {t : Tree}

theorem holds_of_decided {before : List FileRef} {f : FileRef} {spans : List Span}
    (hp : p.test.isPresence = true) (h : p.subject.Decided root t t p.files before f spans) :
    p.Holds root t := by
  obtain ⟨first, others, rfl⟩ := List.exists_cons_of_ne_nil h.nonempty
  have htest := Test.eq_presence hp
  refine holds_of_first h ?_ ?_
  · rw [htest]
    rfl
  · rw [htest]
    trivial

structure Presumes (q p : Query) : Prop where
  subject : q.subject = p.subject
  files : q.files = p.files
  tests : q.test.isAbsent = false
  presence : p.test.isPresence = true

instance (q p : Query) : Decidable (q.Presumes p) :=
  decidable_of_iff
    (q.subject = p.subject ∧ q.files = p.files ∧ q.test.isAbsent = false ∧
      p.test.isPresence = true)
    ⟨fun h => ⟨h.1, h.2.1, h.2.2.1, h.2.2.2⟩, fun h => ⟨h.subject, h.files, h.tests, h.presence⟩⟩

theorem Presumes.holds (h : q.Presumes p) (hq : q.Holds root t) : p.Holds root t := by
  obtain ⟨before, f, first, others, hdecided⟩ := exists_decided_of_holds hq (Test.ne_absent h.tests)
  rw [h.subject, h.files] at hdecided
  exact holds_of_decided h.presence hdecided

theorem Presumes.withLiteral (h : q.Presumes p) (text : Text) :
    (q.withLiteral text).Presumes (p.withLiteral text) :=
  ⟨h.subject, congrArg (List.map (FileRef.withLiteral text)) h.files, h.tests, h.presence⟩

structure PresumesFragment (f : Fragment) (q p : Query) : Prop where
  files : q.files = p.files
  tests : q.test.isAbsent = false
  presence : p.test.isPresence = true
  literal : ∀ r ∈ p.files, r.isLiteral = true
  declared : ∃ kind ∈ [DeclKind.struct, DeclKind.enum], f.kind = kind.word ∧
    p.subject = .declaration kind f.declaration

instance (f : Fragment) (q p : Query) : Decidable (PresumesFragment f q p) :=
  decidable_of_iff
    (q.files = p.files ∧ q.test.isAbsent = false ∧ p.test.isPresence = true ∧
      (∀ r ∈ p.files, r.isLiteral = true) ∧
      ∃ kind ∈ [DeclKind.struct, DeclKind.enum], f.kind = kind.word ∧
        p.subject = .declaration kind f.declaration)
    ⟨fun h => ⟨h.1, h.2.1, h.2.2.1, h.2.2.2.1, h.2.2.2.2⟩,
      fun h => ⟨h.files, h.tests, h.presence, h.literal, h.declared⟩⟩

theorem exists_find_of_extracted {f : Fragment} {kind : DeclKind}
    (hkind : kind = .struct ∨ kind = .enum) (hword : f.kind = kind.word) {text : Text}
    (h : f.extracted root t = .ok text) (hne : text ≠ []) :
    ∃ span, kind.find f.declaration text = some span := by
  rcases f.extracted_cases hword root t with hnil | ⟨_, span, hspan, htext⟩
  · rw [hnil] at h
    cases h
    exact absurd rfl hne
  · rw [htext] at h
    cases h
    exact ⟨_, (find_fragment hkind hspan).2⟩

theorem PresumesFragment.holds {f : Fragment} (h : PresumesFragment f q p) {text : Text}
    (htext : f.extracted root t = .ok text) (hq : (q.withLiteral text).Holds root t) :
    (p.withLiteral text).Holds root t := by
  obtain ⟨before, r, first, others, hdecided⟩ :=
    exists_decided_of_holds hq (Test.ne_absent (t := (q.withLiteral text).test) h.tests)
  have hfiles : (q.withLiteral text).files = p.files.map (FileRef.withLiteral text) :=
    congrArg (List.map (FileRef.withLiteral text)) h.files
  rw [hfiles] at hdecided
  have hspans := hdecided.spans_eq h.literal
  have hne : text ≠ [] := by
    rintro rfl
    rw [Subject.spans_nil] at hspans
    cases hspans
  have hlisted : p.files ≠ [] := by
    intro hnil
    have := hdecided.listed
    rw [hnil] at this
    simp at this
  obtain ⟨kind, hkind, hword, hsubject⟩ := h.declared
  obtain ⟨span, hspan⟩ := exists_find_of_extracted (by simpa using hkind) hword htext hne
  have hfound : p.subject.spans text ≠ [] := by
    rw [hsubject, Subject.spans, hspan]
    simp
  obtain ⟨r, hr⟩ := Subject.decided_withLiteral root t t h.literal hlisted hfound
  exact holds_of_decided (p := p.withLiteral text) h.presence hr

end Query

namespace CatalogGroup

variable {g : CatalogGroup} {e e' : CatalogEntry} {root : Text} {t : Tree} {q : Query}

def Presumes (g : CatalogGroup) (e e' : CatalogEntry) : Prop :=
  e.fragment = e'.fragment ∧ ∃ q ∈ e.query?, ∃ p ∈ e'.query?,
    q.Presumes p ∨ ∃ f ∈ g.fragments, e.fragment = some f.name ∧
      (∀ d ∈ g.fragments, d.name = f.name → d = f) ∧ Query.PresumesFragment f q p

instance (g : CatalogGroup) (e e' : CatalogEntry) : Decidable (g.Presumes e e') :=
  decidable_of_iff
    (e.fragment = e'.fragment ∧
      e.query?.any (fun q => e'.query?.any fun p => decide (q.Presumes p ∨
        ∃ f ∈ g.fragments, e.fragment = some f.name ∧
          (∀ d ∈ g.fragments, d.name = f.name → d = f) ∧ Query.PresumesFragment f q p)) = true)
    (by simp only [Presumes, Option.any_eq_true, decide_eq_true_iff, Option.mem_def])

theorem Presumes.exists_holds (h : g.Presumes e e') (hq : g.asked? root t e = some q)
    (hholds : q.Holds root t) : ∃ p, g.asked? root t e' = some p ∧ p.Holds root t := by
  obtain ⟨hfragment, r, hr, p, hp, hpresumes⟩ := h
  rw [Option.mem_def] at hr hp
  cases hname : e.fragment with
  | none =>
    have hname' : e'.fragment = none := hfragment.symm.trans hname
    rcases hpresumes with hsame | ⟨f, -, hsome, -⟩
    · unfold asked? at hq ⊢
      rw [hname, hr] at hq
      rw [hname', hp]
      cases hq
      exact ⟨p, rfl, hsame.holds hholds⟩
    · rw [hname] at hsome
      cases hsome
  | some name =>
    obtain ⟨text, hextracted, r', hr', rfl⟩ := (asked?_eq_some_iff hname).1 hq
    obtain rfl : r' = r := Option.some.inj (hr'.symm.trans hr)
    refine ⟨p.withLiteral text,
      (asked?_eq_some_iff (hfragment.symm.trans hname)).2 ⟨text, hextracted, p, hp, rfl⟩, ?_⟩
    rcases hpresumes with hsame | ⟨f, hf, hsome, hunique, hdeclares⟩
    · exact (hsame.withLiteral text).holds hholds
    · obtain rfl : name = f.name := Option.some.inj (hname.symm.trans hsome)
      obtain ⟨d, hd, hdname, hfound⟩ :=
        exists_extracted?_eq (List.mem_map_of_mem (f := Fragment.name) hf) root t
      obtain rfl := hunique d hd hdname
      exact hdeclares.holds (Option.some.inj (hfound.symm.trans hextracted)) hholds

end CatalogGroup

namespace Catalog

/-- Whatever defines the first name stands beside a query for the second that holds then too. -/
def Implies (c : Catalog) (m m' : Text) : Prop :=
  ∀ g ∈ c, ∀ e ∈ g.entries, e.define? = some m →
    ∃ e' ∈ g.entries, e'.define? = some m' ∧ g.Presumes e e'

instance (c : Catalog) (m m' : Text) : Decidable (c.Implies m m') :=
  inferInstanceAs (Decidable (∀ g ∈ c, ∀ e ∈ g.entries, e.define? = some m →
    ∃ e' ∈ g.entries, e'.define? = some m' ∧ g.Presumes e e'))

theorem WellFormed.mem_of_implies {c : Catalog} {s : Settings} {config : Text} {t : Tree}
    (h : c.WellFormed) {m m' : Text} (hi : c.Implies m m')
    (hm : m ∈ (c.definitions s config t).map Prod.fst) :
    m' ∈ (c.definitions s config t).map Prod.fst := by
  obtain ⟨g, hg, hruns, e, he, hdefine, q, hq, hholds⟩ := h.mem_definitions_iff.1 hm
  obtain ⟨e', he', hdefine', hpresumes⟩ := hi g hg e he hdefine
  exact h.mem_definitions_iff.2
    ⟨g, hg, hruns, e', he', hdefine', hpresumes.exists_holds hq hholds⟩

end Catalog

end HeaderProbe
