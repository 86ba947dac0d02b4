import HeaderProbe.Proofs.Source.Masked

namespace HeaderProbe

open Text

def DefinitionHead (keyword name u : Text) : Prop :=
  ∃ w w', w ≠ [] ∧ AllBlank w ∧ AllBlank w' ∧ u = keyword ++ (w ++ (name ++ w'))

def OpensAt (keyword name m : Text) (i b : Nat) : Prop :=
  ∃ a u r, DefinitionHead keyword name u ∧ m = a ++ (u ++ '{' :: r) ∧
    a.getLast?.any isWordChar = false ∧ i = a.length ∧ b = (a ++ u).length

def DefinedAt (keyword name m : Text) (i e : Nat) : Prop :=
  ∃ b, OpensAt keyword name m i b ∧ IsLeast (Bracket.brace.closings m b) e

theorem afterOpening_of_blank {name : Text} (hname : IsWord name) {c : Char} (hc : isBlank c = true)
    (r : Text) : afterOpening name (c :: r) = none := by
  by_contra hsome
  obtain ⟨x, hx⟩ := Option.ne_none_iff_exists'.1 hsome
  obtain ⟨u, ⟨w, hw, rfl⟩, hu⟩ := afterOpening_eq_some_iff.1 hx
  obtain ⟨d, s, rfl⟩ := List.exists_cons_of_ne_nil hname.1
  obtain ⟨rfl, -⟩ := List.cons.inj hu
  rw [isBlank_of_isWordChar (hname.isWordChar (List.mem_cons_self ..))] at hc
  cases hc

section

variable {keyword name : Text} (hkeyword : IsWord keyword) (hname : IsWord name)
include hkeyword hname

theorem bodyShape_iff_head {b s r : Text} :
    bodyShape keyword name ⟨b, s⟩ = some ((), r) ↔
      b.head?.any isWordChar = false ∧ ∃ u, DefinitionHead keyword name u ∧ s = u ++ '{' :: r := by
  have hedge {x : Text} : isWordEdge b.head? (keyword ++ x).head? = !b.head?.any isWordChar := by
    obtain ⟨c, k, rfl⟩ := List.exists_cons_of_ne_nil hkeyword.1
    simp [isWordEdge, hkeyword.isWordChar (List.mem_cons_self ..)]
  rw [bodyShape_eq_some_iff]
  constructor
  · rintro ⟨hbegin, x, rfl, hx⟩
    rw [hedge] at hbegin
    obtain ⟨w, y, hne, hw, rfl, hy⟩ :=
      (pastBlanks_eq_some_iff fun c r hc => afterOpening_of_blank hname hc r).1 hx
    obtain ⟨_, ⟨w', hw', rfl⟩, rfl⟩ := afterOpening_eq_some_iff.1 hy
    exact ⟨by simpa using hbegin, _, ⟨w, w', hne, hw, hw', rfl⟩, by simp⟩
  · rintro ⟨hbegin, _, ⟨w, w', hne, hw, hw', rfl⟩, rfl⟩
    refine ⟨?_, w ++ (name ++ (w' ++ '{' :: r)), by simp, ?_⟩
    · simp only [List.append_assoc]
      rw [hedge, hbegin]
      rfl
    · refine (pastBlanks_eq_some_iff fun c r hc => afterOpening_of_blank hname hc r).2
        ⟨w, _, hne, hw, rfl, afterOpening_eq_some_iff.2 ⟨_, ⟨w', hw', rfl⟩, by simp⟩⟩

theorem bodyShape_apart : Place.Apart (bodyShape keyword name) := by
  intro b s _ r h u v hs hu hv
  by_contra hsome
  obtain ⟨⟨_, r'⟩, hr'⟩ := Option.ne_none_iff_exists'.1 hsome
  obtain ⟨-, _, ⟨w, w', hne, hw, hw', rfl⟩, rfl⟩ := (bodyShape_iff_head hkeyword hname).1 h
  obtain ⟨hbegin, _, ⟨x, x', hne', hx, hx', rfl⟩, rfl⟩ := (bodyShape_iff_head hkeyword hname).1 hr'
  have hopen : isWordChar '{' = false := by decide +kernel
  have hmention : Mention keyword (keyword ++ (w ++ (name ++ (w' ++ '{' :: r)))) u
      (x ++ (name ++ (x' ++ '{' :: r'))) := by
    refine ⟨by simpa using hs, ?_, hx.isWordChar_head? hne' _⟩
    obtain ⟨c, hc⟩ := Option.ne_none_iff_exists'.1 (mt List.getLast?_eq_none_iff.1 hu)
    simpa [List.head?_append, hc] using hbegin
  rcases hmention.append hkeyword (.inr (hw.isWordChar_head? hne _)) with ⟨y, -, hfirst⟩ | ⟨y, rfl, hbehind⟩
  · exact hu (hfirst.eq_nil hkeyword).1
  rcases hbehind.append hkeyword (.inl hw.isWordChar_getLast?) with ⟨z, -, hgap⟩ | ⟨z, rfl, htail⟩
  · exact hw.unmentioned hkeyword y z hgap
  have hedge : (w' ++ '{' :: r).head?.any isWordChar = false := by
    cases w' with
    | nil => exact hopen
    | cons c w' => exact hw'.isWordChar_head? (List.cons_ne_nil c w') _
  rcases htail.append hkeyword (.inr hedge) with ⟨q, hq, hin⟩ | ⟨q, rfl, hend⟩
  · obtain ⟨-, rfl⟩ := hin.eq_nil hname
    have hskip := congrArg skipBlanks hq
    rw [skipBlanks_append hx, List.nil_append, skipBlanks_append hw', skipBlanks_cons rfl] at hskip
    obtain ⟨c, n, rfl⟩ := List.exists_cons_of_ne_nil hname.1
    have hc : isWordChar c = true := hname.isWordChar (List.mem_cons_self ..)
    rw [List.cons_append, skipBlanks_cons (isBlank_of_isWordChar hc)] at hskip
    rw [(List.cons.inj hskip).1, hopen] at hc
    cases hc
  rcases hend.divided hkeyword hopen with ⟨q', -, hgap⟩ | ⟨q', rfl, hbody⟩
  · exact hw'.unmentioned hkeyword q q' hgap
  · have hlength := congrArg List.length hbody.text_eq
    simp only [List.length_append, List.length_cons] at hlength hv
    omega

omit hkeyword hname in
theorem bodyExtent?_eq_some_iff {a u r : Text} {i e : Nat} :
    bodyExtent? ⟨⟨a.reverse, u ++ '{' :: r⟩, (), r⟩ = some (i, e) ↔
      i = a.length ∧ IsLeast (Bracket.brace.closings (a ++ (u ++ '{' :: r)) (a ++ u).length) e := by
  have hleast : IsLeast (Bracket.brace.closings (a ++ (u ++ '{' :: r)) (a ++ u).length) e ↔
      ∃ close, Bracket.brace.afterClose ('{' :: r) = some close ∧
        e = (a ++ (u ++ '{' :: r)).length - close.length := by
    have h := Bracket.isLeast_closings_iff (b := .brace) (a := a ++ u) (s := r) (e := e)
    rwa [List.append_assoc] at h
  have hstop {close : Text} (h : Bracket.brace.afterClose ('{' :: r) = some close) :
      a.length + ((u ++ '{' :: r).length - close.length) =
        (a ++ (u ++ '{' :: r)).length - close.length := by
    have := Bracket.length_partner_lt h
    simp only [List.length_append, List.length_cons] at this ⊢
    omega
  rw [hleast]
  simp only [bodyExtent?, Option.bind_eq_bind, Option.bind_eq_some_iff, Option.pure_def,
    Option.some.injEq, Prod.mk.injEq, Place.offset, Place.reach, List.length_reverse]
  constructor
  · rintro ⟨close, hclose, rfl, rfl⟩
    exact ⟨rfl, close, hclose, hstop hclose⟩
  · rintro ⟨rfl, close, hclose, rfl⟩
    exact ⟨close, hclose, rfl, hstop hclose⟩

theorem definedAt_iff {m : Text} {i e : Nat} :
    DefinedAt keyword name m i e ↔
      ∃ o ∈ (Place.start m).occurrences (bodyShape keyword name), bodyExtent? o = some (i, e) := by
  have hmem {o : Occurrence Unit} := Place.mem_occurrences_iff_of_apart (o := o) (m := m)
    (bodyShape_apart hkeyword hname)
  constructor
  · rintro ⟨_, ⟨a, u, r, hu, rfl, ha, rfl, rfl⟩, he⟩
    refine ⟨⟨⟨a.reverse, u ++ '{' :: r⟩, (), r⟩, hmem.2 ⟨by simp [Place.text], ?_⟩,
      bodyExtent?_eq_some_iff.2 ⟨rfl, he⟩⟩
    rw [bodyShape_iff_head hkeyword hname, List.head?_reverse]
    exact ⟨ha, u, hu, rfl⟩
  · rintro ⟨⟨⟨b, s⟩, _, r⟩, ho, hextent⟩
    obtain ⟨rfl, hshape⟩ := hmem.1 ho
    obtain ⟨hb, u, hu, hs⟩ := (bodyShape_iff_head hkeyword hname).1 hshape
    obtain rfl : s = u ++ '{' :: r := hs
    rw [← List.reverse_reverse b, bodyExtent?_eq_some_iff] at hextent
    obtain ⟨rfl, he⟩ := hextent
    exact ⟨_, ⟨b.reverse, u, r, hu, rfl, by rwa [List.getLast?_reverse], rfl, rfl⟩, he⟩

theorem findBody_eq_some_iff {t : Text} {s : Span} :
    findBody keyword name t = some s ↔
      ∃ i e, s = Span.cut t i e ∧ IsLeast {i | ∃ e, DefinedAt keyword name (mask t) i e} i ∧
        DefinedAt keyword name (mask t) i e := by
  have hoffset {o : Occurrence Unit} {i e : Nat} (h : bodyExtent? o = some (i, e)) :
      i = o.place.offset := by
    obtain ⟨-, -, -, -, hi, -⟩ := exists_of_bodyExtent? h
    exact hi
  simp only [findBody, Option.map_eq_some_iff, Place.findSome?_occurrences_eq_some_iff, Prod.exists]
  constructor
  · rintro ⟨i, e, ⟨o, ho, hextent, hearlier⟩, rfl⟩
    have hdefined := (definedAt_iff hkeyword hname).2 ⟨o, ho, hextent⟩
    refine ⟨i, e, rfl, ⟨⟨e, hdefined⟩, ?_⟩, hdefined⟩
    rintro j ⟨e', hj⟩
    obtain ⟨o', ho', hextent'⟩ := (definedAt_iff hkeyword hname).1 hj
    by_contra hlt
    rw [hoffset hextent, hoffset hextent', not_le] at hlt
    rw [hearlier o' ho' hlt] at hextent'
    cases hextent'
  · rintro ⟨i, e, rfl, hleast, hdefined⟩
    obtain ⟨o, ho, hextent⟩ := (definedAt_iff hkeyword hname).1 hdefined
    refine ⟨i, e, ⟨o, ho, hextent, fun o' ho' hlt => ?_⟩, rfl⟩
    by_contra hsome
    obtain ⟨⟨j, e'⟩, hextent'⟩ := Option.ne_none_iff_exists'.1 hsome
    have hle := hleast.2 ⟨e', (definedAt_iff hkeyword hname).2 ⟨o', ho', hextent'⟩⟩
    rw [hoffset hextent, hoffset hextent'] at hle
    omega

theorem findBody_eq_none_iff {t : Text} :
    findBody keyword name t = none ↔ ∀ i e, ¬ DefinedAt keyword name (mask t) i e := by
  simp only [findBody, Option.map_eq_none_iff, List.findSome?_eq_none_iff]
  constructor
  · intro h i e hdefined
    obtain ⟨o, ho, hextent⟩ := (definedAt_iff hkeyword hname).1 hdefined
    rw [h o ho] at hextent
    cases hextent
  · intro h o ho
    by_contra hsome
    obtain ⟨⟨i, e⟩, hextent⟩ := Option.ne_none_iff_exists'.1 hsome
    exact h i e ((definedAt_iff hkeyword hname).2 ⟨o, ho, hextent⟩)

theorem DefinitionHead.brace_notMem {u : Text} (hu : DefinitionHead keyword name u) : '{' ∉ u := by
  have hopen : isWordChar '{' = false := by decide +kernel
  have hword {w : Text} (hw : IsWord w) : '{' ∉ w := by
    intro hmem
    rw [hw.isWordChar hmem] at hopen
    cases hopen
  have hblank {w : Text} (hw : AllBlank w) : '{' ∉ w := fun hmem => by cases hw _ hmem
  obtain ⟨w, w', -, hw, hw', rfl⟩ := hu
  simp [hword hkeyword, hword hname, hblank hw, hblank hw']

omit hkeyword hname in
theorem matchClose_of_nested {x y : Text} (a close : Text)
    (hpaired : Bracket.Paired '{' '}' (x ++ '{' :: y)) :
    ∃ q ≤ (a ++ '{' :: (y ++ '}' :: close)).length - close.length,
      matchClose (a ++ '{' :: (y ++ '}' :: close)) a.length = some q := by
  obtain ⟨z, hz⟩ := hpaired.exists_partner (by decide) rfl
  have hclose : Bracket.brace.afterClose ('{' :: (y ++ '}' :: close)) = some (z ++ '}' :: close) := by
    rw [← Bracket.partner_append hz]
    exact Bracket.afterClose_opening (b := .brace)
  refine ⟨_, ?_, matchClose_of_afterClose (b := .brace) hclose⟩
  simp only [Bracket.opening, List.length_append, List.length_cons]
  omega

theorem DefinedAt.complete {m : Text} {i e : Nat} (h : DefinedAt keyword name m i e) :
    (∃ b, i < b ∧ '{' ∉ m.extract i b ∧ m[b]? = some '{' ∧ matchClose m b = some e) ∧
      ∀ x y, m.extract i e = x ++ '{' :: y → ∃ q ≤ e, matchClose m (i + x.length) = some q := by
  obtain ⟨_, ⟨a, u, r, hu, rfl, -, rfl, rfl⟩, hleast⟩ := h
  have hnone := hu.brace_notMem hkeyword hname
  have hne : u ≠ [] := by
    obtain ⟨w, w', -, -, -, rfl⟩ := hu
    simp [hkeyword.1]
  have hopen : (a ++ (u ++ '{' :: r))[(a ++ u).length]? = some Bracket.brace.opening := by
    rw [← List.append_assoc, List.getElem?_append_right (le_refl _), Nat.sub_self]
    rfl
  have hmatch := (matchClose_eq_some_iff hopen).2 hleast
  obtain ⟨close, hclose, he⟩ : ∃ close, Bracket.brace.afterClose ('{' :: r) = some close ∧
      e = (a ++ (u ++ '{' :: r)).length - close.length := by
    rw [← List.append_assoc] at hleast ⊢
    exact Bracket.isLeast_closings_iff.1 hleast
  obtain ⟨inner, hpaired, rfl⟩ : ∃ inner, Bracket.Paired '{' '}' inner ∧ r = inner ++ '}' :: close :=
    (Bracket.afterClose_eq_some_iff_paired (b := .brace)).1 hclose
  have hextract : (a ++ (u ++ '{' :: (inner ++ '}' :: close))).extract a.length e =
      u ++ '{' :: (inner ++ ['}']) := by
    have hwidth : e - a.length = (u ++ '{' :: (inner ++ ['}'])).length := by
      simp only [he, List.length_append, List.length_cons, List.length_nil]
      omega
    have hsplit : u ++ '{' :: (inner ++ '}' :: close) = (u ++ '{' :: (inner ++ ['}'])) ++ close := by simp
    rw [List.extract_eq_take_drop, List.drop_left, hwidth, hsplit, List.take_left]
  refine ⟨⟨(a ++ u).length, ?_, ?_, hopen, hmatch⟩, fun x y hxy => ?_⟩
  · have := List.length_pos_of_ne_nil hne
    rw [List.length_append]
    omega
  · rw [List.extract_eq_take_drop, List.drop_left, List.length_append, Nat.add_sub_cancel_left,
      List.take_left]
    exact hnone
  · rw [hextract] at hxy
    rcases List.append_eq_append_iff.1 hxy with ⟨x', rfl, hx⟩ | ⟨u', rfl, hu'⟩
    · cases x' with
      | nil =>
        rw [List.append_nil, ← List.length_append]
        exact ⟨e, le_refl e, hmatch⟩
      | cons c x' =>
        obtain ⟨rfl, hinner⟩ := List.cons.inj hx
        rcases List.eq_nil_or_concat y with rfl | ⟨y, d, rfl⟩
        · exact absurd (List.append_inj_right' hinner rfl) (by simp)
        · obtain ⟨hinner, hlast⟩ := List.append_inj' (hinner.trans (by simp) :
            inner ++ ['}'] = (x' ++ '{' :: y) ++ [d]) rfl
          subst hinner
          obtain ⟨q, hq, hnested⟩ := matchClose_of_nested (a ++ (u ++ '{' :: x')) close hpaired
          exact ⟨q, by simpa [he] using hq, by simpa using hnested⟩
    · cases u' with
      | nil =>
        refine ⟨e, le_refl e, ?_⟩
        simpa using hmatch
      | cons c u' =>
        obtain ⟨rfl, -⟩ := List.cons.inj hu'
        simp at hnone

end

structure FirstDefinition (keyword name t : Text) (found : Option Span) : Prop where
  some_iff : ∀ s, found = some s ↔
    ∃ i e, s = Span.cut t i e ∧ IsLeast {i | ∃ e, DefinedAt keyword name (mask t) i e} i ∧
      DefinedAt keyword name (mask t) i e
  none_iff : found = none ↔ ∀ i e, ¬ DefinedAt keyword name (mask t) i e
  closed : ∀ s, found = some s →
    ∃ b, s.start < b ∧ '{' ∉ (mask t).extract s.start b ∧ (mask t)[b]? = some '{' ∧
      matchClose (mask t) b = some s.stop
  complete : ∀ s, found = some s → ∀ x y, (mask t).extract s.start s.stop = x ++ '{' :: y →
    ∃ q ≤ s.stop, matchClose (mask t) (s.start + x.length) = some q
  unhidden : ∀ i e, DefinedAt keyword name (mask t) i e → ∃ s, found = some s ∧ s.start ≤ i

theorem findBody_firstDefinition {keyword name : Text} (hkeyword : IsWord keyword) (hname : IsWord name)
    (t : Text) : FirstDefinition keyword name t (findBody keyword name t) := by
  have hsome {s : Span} := findBody_eq_some_iff hkeyword hname (t := t) (s := s)
  have hnone := findBody_eq_none_iff hkeyword hname (t := t)
  refine ⟨fun s => hsome, hnone, fun s hs => ?_, fun s hs => ?_, fun i e hdefined => ?_⟩
  · obtain ⟨i, e, rfl, -, hdefined⟩ := hsome.1 hs
    exact (hdefined.complete hkeyword hname).1
  · obtain ⟨i, e, rfl, -, hdefined⟩ := hsome.1 hs
    exact (hdefined.complete hkeyword hname).2
  · cases hfound : findBody keyword name t with
    | none => exact absurd hdefined (hnone.1 hfound i e)
    | some s =>
      obtain ⟨j, e', rfl, hleast, -⟩ := hsome.1 hfound
      exact ⟨_, rfl, hleast.2 ⟨e, hdefined⟩⟩

structure OpensBody (m : Text) (definition : Span) (b : Nat) : Prop where
  behind : definition.start < b
  first : '{' ∉ m.extract definition.start b
  opens : m[b]? = some '{'
  closes : matchClose m b = some definition.stop

theorem exists_opensBody {keyword name t : Text} {s : Span} (hkeyword : IsWord keyword) (hname : IsWord name)
    (h : findBody keyword name t = some s) : ∃ b, OpensBody (mask t) s b := by
  obtain ⟨b, hbehind, hfirst, hopens, hcloses⟩ := (findBody_firstDefinition hkeyword hname t).closed s h
  exact ⟨b, hbehind, hfirst, hopens, hcloses⟩

theorem OpensBody.lt_stop {m : Text} {s : Span} {b : Nat} (h : OpensBody m s b) : b < s.stop :=
  ((matchClose_eq_some_iff (b := .brace) h.opens).1 h.closes).1.1

theorem extract_eq_append_cons {m : Text} {i b e : Nat} {c : Char} (hi : i ≤ b) (he : b < e)
    (hc : m[b]? = some c) : m.extract i e = m.extract i b ++ c :: m.extract (b + 1) e := by
  obtain ⟨hlt, rfl⟩ := List.getElem?_eq_some_iff.1 hc
  have hwidth : e - i = (b - i) + ((e - (b + 1)) + 1) := by omega
  simp only [List.extract_eq_take_drop]
  rw [hwidth, List.take_add, List.drop_drop, Nat.add_sub_cancel' hi, ← List.getElem_cons_drop hlt,
    List.take_succ_cons]

theorem OpensBody.mask_text {keyword name t : Text} {s : Span} {b : Nat} (hkeyword : IsWord keyword)
    (hs : findBody keyword name t = some s) (h : OpensBody (mask t) s b) :
    mask s.text = (mask t).extract s.start b ++ '{' :: (mask t).extract (b + 1) s.stop := by
  obtain ⟨c, k, rfl⟩ := List.exists_cons_of_ne_nil hkeyword.1
  rw [mask_text_of_findBody (by simpa using hkeyword.isWordChar (List.mem_cons_self ..)) hs]
  exact extract_eq_append_cons (Nat.le_of_lt h.behind) h.lt_stop h.opens

theorem definitions_found_first {name : Text} (hname : IsWord name) (t : Text) :
    FirstDefinition "struct".toList name t (findStruct name t) ∧
      FirstDefinition "enum".toList name t (findEnum name t) :=
  ⟨findBody_firstDefinition (by decide +kernel) hname t, findBody_firstDefinition (by decide +kernel) hname t⟩

def reopenedText : Text :=
  "struct s \x7b struct s \x7b enum s \x7b A \x7d a; \x7d x;".toList

theorem definition_found_in_unclosed_one :
    findStruct "s".toList reopenedText = some ⟨"struct s \x7b enum s \x7b A \x7d a; \x7d".toList, 11, 39, 1⟩ ∧
      IsLeast {i | ∃ e, DefinedAt "struct".toList "s".toList (mask reopenedText) i e} 11 ∧
      DefinedAt "enum".toList "s".toList (mask reopenedText) 22 34 := by
  have hname : IsWord "s".toList := by decide +kernel
  obtain ⟨hstruct, henum⟩ := definitions_found_first hname reopenedText
  have hfound : findStruct "s".toList reopenedText = some (Span.cut reopenedText 11 39) := by
    decide +kernel
  have hlist : findEnum "s".toList reopenedText = some (Span.cut reopenedText 22 34) := by
    decide +kernel
  obtain ⟨i, e, hspan, hleast, -⟩ := (hstruct.some_iff _).1 hfound
  obtain rfl : 11 = i := congrArg Span.start hspan
  obtain ⟨j, k, hspan', -, hdefined⟩ := (henum.some_iff _).1 hlist
  obtain rfl : 22 = j := congrArg Span.start hspan'
  obtain rfl : 34 = k := congrArg Span.stop hspan'
  exact ⟨by rw [hfound]; decide +kernel, hleast, hdefined⟩

end HeaderProbe
