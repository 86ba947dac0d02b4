import HeaderProbe.Proofs.Source.Define
import HeaderProbe.Proofs.Source.FieldValue
import HeaderProbe.Proofs.Source.Lookup

namespace HeaderProbe

open Text

structure Span.WellFormed (t : Text) (s : Span) : Prop where
  ordered : s.start ≤ s.stop
  within : s.stop ≤ t.length
  text_eq : s.text = t.extract s.start s.stop
  line_eq : s.line = 1 + (t.take s.start).count '\n'

theorem Span.wellFormed_cut {t : Text} {start stop : Nat} (h : start ≤ stop) (h' : stop ≤ t.length) :
    (Span.cut t start stop).WellFormed t :=
  ⟨h, h', by rw [List.extract_eq_take_drop]; rfl, Nat.add_comm _ _⟩

theorem Span.wellFormed_piece {t x y z : Text} (h : t.length = (x ++ (y ++ z)).length) :
    (Span.cut t x.length (x.length + y.length)).WellFormed t := by
  refine wellFormed_cut (Nat.le_add_right _ _) ?_
  simp only [List.length_append] at h
  omega

theorem wellFormed_of_findBody {keyword name t : Text} {s : Span} (h : findBody keyword name t = some s) :
    s.WellFormed t := by
  obtain ⟨d, rfl⟩ := exists_definition h
  rw [← List.length_reverse]
  refine Span.wellFormed_piece (z := d.after) ?_
  rw [← length_mask, d.text_eq, List.append_assoc]

theorem wellFormed_of_findDefine {name t : Text} {s : Span} (hname : IsWord name)
    (h : findDefine name t = some s) : s.WellFormed t := by
  obtain ⟨d, rfl⟩ := exists_found_define hname h
  exact Span.wellFormed_piece (congrArg List.length d.text_split)

theorem wellFormed_of_findInitializers {type field t : Text} {wanted : Option Text} {s : Span}
    (hfield : IsWord field) (h : s ∈ findInitializers type field t wanted) : s.WellFormed t := by
  rw [← map_snd_contributions] at h
  obtain ⟨⟨o, s⟩, hcontributed, rfl⟩ := List.mem_map.1 h
  obtain ⟨ho, -, hs⟩ := mem_contributions_iff.1 hcontributed
  obtain ⟨f, rfl⟩ := exists_found_value hfield ho hs
  have hsplit : mask t = (f.head ++ '{' :: f.lead) ++ (f.value ++ (f.gap ++ f.after ++ '}' :: f.close)) := by
    rw [f.mask_eq, f.rest_eq_body, FoundValue.body]
    simp
  have hstart : f.start = (f.head ++ '{' :: f.lead).length := by
    simp only [FoundValue.start, FoundValue.opening, List.length_append, List.length_cons]
    omega
  rw [FoundValue.span, FoundValue.stop, hstart]
  refine Span.wellFormed_piece (z := f.gap ++ f.after ++ '}' :: f.close) ?_
  rw [← length_mask, hsplit]

structure DeclaresCall (name m : Text) (s : Span) (n p e : Nat) : Prop where
  named : s.start ≤ n
  unended : ∀ c ∈ m.extract s.start n, endsStatement c = false
  opens : ∃ isPointer, CallOpening name isPointer (m.extract n (p + 1))
  closes : matchClose m p = some e
  holds : e ≤ s.stop
  ends : s.stop = e ∨ ∃ z, Attributes z ∧ m.extract e s.stop = z ++ [';']

namespace FoundFunction

variable {name t : Text} {o : Occurrence Bool} (d : FoundFunction name t o)

theorem wellFormed_span : d.span.WellFormed t := by
  rw [span, ← List.length_reverse]
  refine Span.wellFormed_piece (z := d.after) ?_
  rw [← length_mask, d.mask_eq]

theorem exists_trailer : ∃ arguments trailer, d.parameters = (arguments ++ [')']) ++ trailer ∧
    Bracket.paren.afterClose ('(' :: d.parameters) = some trailer ∧
      (trailer = [] ∨ ∃ z, Attributes z ∧ trailer = z ++ [';']) := by
  obtain ⟨trailer, hclose, htrailer⟩ := d.closes
  obtain ⟨arguments, -, hparameters⟩ := Bracket.afterClose_eq_some_iff.1 hclose
  refine ⟨arguments, trailer, by rw [hparameters]; simp, hclose, ?_⟩
  cases hsemicolon : afterTrailer trailer with
  | none =>
    rw [hsemicolon] at htrailer
    exact .inl htrailer
  | some r =>
    rw [hsemicolon] at htrailer
    obtain rfl : r = [] := htrailer
    exact .inr (afterTrailer_eq_some_iff.1 hsemicolon)

theorem declaresCall : ∃ n p e, DeclaresCall name (mask t) d.span n p e := by
  obtain ⟨x, hx⟩ := d.opens.exists_paren
  obtain ⟨arguments, trailer, hparameters, hclose, htrailer⟩ := d.exists_trailer
  obtain ⟨named, hnamed⟩ : ∃ named, named = d.before.reverse ++ d.head := ⟨_, rfl⟩
  obtain ⟨called, hcalled⟩ : ∃ called, called = named ++ (d.opening ++ (arguments ++ [')'])) := ⟨_, rfl⟩
  have hmask : mask t = d.before.reverse ++ (d.head ++ (d.opening ++ (d.parameters ++ d.after))) := by
    rw [d.mask_eq, piece]
    simp only [List.append_assoc]
  have hname : mask t = named ++ (d.opening ++ (d.parameters ++ d.after)) := by
    rw [hmask, hnamed, List.append_assoc]
  have hparen : mask t = (named ++ x) ++ '(' :: (d.parameters ++ d.after) := by
    rw [hname, hx]
    simp
  have hend : mask t = called ++ (trailer ++ d.after) := by
    rw [hname, hparameters, hcalled]
    simp only [List.append_assoc]
  have hstart : d.span.start = d.before.reverse.length := List.length_reverse.symm
  have hstop : d.span.stop = called.length + trailer.length := by
    change d.before.length + d.piece.length = _
    rw [piece, hparameters, hcalled, hnamed]
    simp only [List.length_append, List.length_reverse]
    omega
  refine ⟨named.length, (named ++ x).length, called.length, ?_, fun c hc => ?_, ⟨o.value, ?_⟩, ?_, by omega, ?_⟩
  · rw [hstart, hnamed, List.length_append]
    exact Nat.le_add_right _ _
  · rw [hstart, hnamed, List.length_append, hmask, extract_append] at hc
    exact statementHead_closed _ c hc
  · have hlength : (named ++ x).length + 1 = named.length + d.opening.length := by
      rw [hx]
      simp only [List.length_append, List.length_singleton, Nat.add_assoc]
    rw [hlength, hname, extract_append]
    exact d.opens
  · have hrest : Bracket.paren.afterClose ('(' :: (d.parameters ++ d.after)) = some (trailer ++ d.after) :=
      Bracket.partner_append hclose d.after
    have hlength : (mask t).length - (trailer ++ d.after).length = called.length := by
      rw [hend, List.length_append, Nat.add_sub_cancel]
    rw [← hlength, hparen]
    exact matchClose_of_afterClose (b := .paren) hrest
  · rw [hstop]
    refine htrailer.imp (fun hnil => by rw [hnil]; rfl) ?_
    rintro ⟨z, hz, hsemicolon⟩
    exact ⟨z, hz, by rw [hend, extract_append, hsemicolon]⟩

end FoundFunction

def InsideStruct (type t : Text) (s : Span) : Prop :=
  ∃ struct b, findStruct type t = some struct ∧ OpensBody (mask t) struct b ∧ b < s.start ∧ s.stop < struct.stop

theorem memberExtent?_inside {field definition u body : Text} {i j : Nat} (hfield : IsWord field)
    (hmask : mask definition = u ++ '{' :: body) (hu : '{' ∉ u) (hlast : (mask definition).getLast? = some '}')
    (h : memberExtent? field definition = some (i, j)) : u.length < i ∧ i ≤ j ∧ j < definition.length := by
  simp only [memberExtent?, hmask, bodyPlace_eq hu, Option.bind_eq_bind, Option.bind_eq_some_iff,
    Option.pure_def, Option.some.injEq, Prod.mk.injEq] at h
  obtain ⟨o, ho, _, hguard, rfl, rfl⟩ := h
  obtain ⟨x, y, hmet, rfl⟩ := (mem_occurrences_nameShape_iff hfield).1 (List.mem_of_find?_eq_some ho)
  have hhead : (statementHead (x.reverse ++ '{' :: u.reverse)).length ≤ x.reverse.length :=
    length_statementHead_le rfl
  have hbody : body = x ++ (field ++ y) := hmet.after_eq
  have hlength : definition.length = u.length + (x.length + (field.length + y.length) + 1) := by
    rw [← length_mask, hmask, hbody]
    simp only [List.length_append, List.length_cons]
  obtain ⟨r, htail⟩ : ∃ r, y.dropWhile (· ≠ ';') = ';' :: r := by
    change guard ((!(y.dropWhile (· ≠ ';')).isEmpty) = true) = some _ at hguard
    cases hdrop : y.dropWhile (· ≠ ';') with
    | nil =>
      rw [hdrop] at hguard
      cases hguard
    | cons c r =>
      obtain ⟨hc, -⟩ := dropWhile_eq_cons_iff.1 hdrop
      obtain rfl : c = ';' := by simpa using hc
      exact ⟨r, rfl⟩
  obtain ⟨-, skipped, -, hy⟩ := dropWhile_eq_cons_iff.1 htail
  have hrest : 0 < r.length := by
    refine List.length_pos_of_ne_nil fun hnil => ?_
    have hend : mask definition = (u ++ '{' :: (x ++ (field ++ skipped))) ++ [';'] := by
      rw [hmask, hbody, hy, hnil]
      simp
    rw [hend, List.getLast?_append] at hlast
    cases hlast
  have hsplit := congrArg List.length hy
  simp only [mentionAt, statementStart, Place.offset, Place.reach, htail, List.length_append, List.length_cons,
    List.length_reverse] at hhead hlength hsplit ⊢
  omega

theorem findMember_inside {type field t : Text} {s : Span} (htype : IsWord type) (hfield : IsWord field)
    (h : findMember type field t = some s) : s.WellFormed t ∧ InsideStruct type t s := by
  simp only [findMember, Option.bind_eq_bind, Option.bind_eq_some_iff, Option.pure_def, Option.some.injEq,
    Prod.exists] at h
  obtain ⟨struct, hstruct, i, j, hextent, rfl⟩ := h
  have hkeyword : IsWord "struct".toList := by decide +kernel
  have hcut := wellFormed_of_findBody hstruct
  obtain ⟨b, hb⟩ := exists_opensBody hkeyword htype hstruct
  have hopens := hb.behind
  have hcloses := hb.lt_stop
  have hmask := hb.mask_text hkeyword hstruct
  have hlast : (mask struct.text).getLast? = some '}' := by
    obtain ⟨d, rfl⟩ := exists_definition hstruct
    rw [d.cut_text, d.mask_cut (by decide)]
    exact d.ends
  obtain ⟨hstart, hordered, hstop⟩ := memberExtent?_inside hfield hmask hb.first hlast hextent
  have hwithin := hcut.within
  have htext : struct.text.length = struct.stop - struct.start := by
    rw [hcut.text_eq, List.extract_eq_take_drop, List.length_take, List.length_drop]
    omega
  have hhead : ((mask t).extract struct.start b).length = b - struct.start := by
    rw [List.extract_eq_take_drop, List.length_take, List.length_drop, length_mask]
    omega
  refine ⟨Span.wellFormed_cut (by omega) (by omega), struct, b, hstruct, hb, ?_, ?_⟩
  · change b < struct.start + i
    omega
  · change struct.start + j < struct.stop
    omega

def Locates {F : Type} [Membership Span F] (checked : Lookup F) (found : F) (P : Span → Prop) : Prop :=
  checked = .ok found ∧ ∀ s ∈ found, P s

structure LocatorsSound (name type field t : Text) : Prop where
  function : Locates (Checked.findFunction name t) (findFunction name t) fun s =>
    s.WellFormed t ∧ ∃ n p e, DeclaresCall name (mask t) s n p e
  struct : Locates (Checked.findStruct name t) (findStruct name t) (Span.WellFormed t)
  enum : Locates (Checked.findEnum name t) (findEnum name t) (Span.WellFormed t)
  define : ∀ s ∈ findDefine name t, s.WellFormed t
  member : Locates (Checked.findMember type field t) (findMember type field t) fun s =>
    s.WellFormed t ∧ InsideStruct type t s
  initializers : ∀ wanted, Locates (Checked.findInitializers type field t wanted)
    (findInitializers type field t wanted) (Span.WellFormed t)

theorem locators_sound {name type field : Text} (hname : IsWord name) (htype : IsWord type)
    (hfield : IsWord field) (t : Text) : LocatorsSound name type field t where
  function := by
    refine ⟨Checked.findFunction_eq name t, fun s hs => ?_⟩
    obtain ⟨o, -, -, d, rfl⟩ := exists_of_findFunction_at hs
    exact ⟨d.wellFormed_span, d.declaresCall⟩
  struct := ⟨Checked.findStruct_eq hname t, fun _ hs => wellFormed_of_findBody hs⟩
  enum := ⟨Checked.findEnum_eq hname t, fun _ hs => wellFormed_of_findBody hs⟩
  define := fun _ hs => wellFormed_of_findDefine hname hs
  member := ⟨Checked.findMember_eq htype field t, fun _ hs => findMember_inside htype hfield hs⟩
  initializers := fun wanted =>
    ⟨Checked.findInitializers_eq type field t wanted, fun _ hs => wellFormed_of_findInitializers hfield hs⟩

def mixedText : Text :=
  "#define f 0\nint f(int (*g)(int)) __x(1);\n".toList ++
    "struct f \x7b struct \x7b int (*f)(int); \x7d; \x7d;\nstruct f v = \x7b .f = g \x7d;".toList

theorem locators_sound_in_mixed_text :
    findDefine ['f'] mixedText = some ⟨"#define f 0".toList, 0, 11, 1⟩ ∧
      findInitializers ['f'] ['f'] mixedText none = [⟨['g'], 102, 103, 4⟩] ∧
      (∃ s n p e, findFunction ['f'] mixedText = some s ∧ s.text = "int f(int (*g)(int)) __x(1);".toList ∧
        DeclaresCall ['f'] (mask mixedText) s n p e) ∧
      ∃ s, Checked.findMember ['f'] ['f'] mixedText = .ok (some s) ∧ s.text = "int (*f)(int);".toList ∧
        InsideStruct ['f'] mixedText s := by
  have hname : IsWord ['f'] := by decide +kernel
  obtain ⟨⟨-, hfunction⟩, -, -, -, ⟨hchecked, hmember⟩, -⟩ := locators_sound hname hname hname mixedText
  have hfound : findFunction ['f'] mixedText = some (Span.cut mixedText 12 40) := by decide +kernel
  have hinside : findMember ['f'] ['f'] mixedText = some (Span.cut mixedText 61 75) := by decide +kernel
  obtain ⟨-, n, p, e, hdeclares⟩ := hfunction _ hfound
  rw [hinside] at hchecked
  exact ⟨by decide +kernel, by decide +kernel, ⟨_, n, p, e, hfound, by decide +kernel, hdeclares⟩, _, hchecked,
    by decide +kernel, (hmember _ hinside).2⟩

end HeaderProbe
