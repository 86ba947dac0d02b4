import HeaderProbe.Proofs.Mask.Role
import HeaderProbe.Proofs.Source.Designator
import HeaderProbe.Proofs.Text.Occurrence

namespace HeaderProbe

open Text

theorem wordRun_suffix (w s : Text) : (wordRun w s).2 <:+ s := by
  induction s generalizing w with
  | nil => exact List.suffix_rfl
  | cons c s ih =>
    simp only [wordRun]
    split
    · exact (ih _).trans (List.suffix_cons c s)
    · split
      · exact (ih _).trans (List.suffix_cons c s)
      · exact List.suffix_rfl

theorem instanceShape_opening_suffix {type name r : Text} {p : Place}
    (h : instanceShape type p = some (name, r)) : '{' :: r <:+ p.after := by
  simp only [instanceShape] at h
  split at h
  · simp only [Option.bind_eq_bind, Option.bind_eq_some_iff,
      List.isPrefixOf?_eq_some_iff_append_eq] at h
    obtain ⟨s, hs, hblanks⟩ := h
    obtain ⟨c, w, s', rfl, -, htype⟩ := exists_of_pastBlanks hblanks
    simp only [Option.bind_eq_some_iff, List.isPrefixOf?_eq_some_iff_append_eq] at htype
    obtain ⟨y, rfl, -, -, z, -, hz⟩ := htype
    have hrun := wordRun_suffix [] y
    split at hz
    · next r' hr' =>
      split at hz
      · next r'' hr'' =>
        cases hz
        have hskip : '{' :: r <:+ r' := by
          rw [← hr'']
          exact List.dropWhile_suffix isBlank
        rw [hr'] at hrun
        have htail : '{' :: r <:+ y := hskip.trans ((List.suffix_cons '=' r').trans hrun)
        have hword : y <:+ c :: w ++ (type ++ y) :=
          (List.suffix_append type y).trans (List.suffix_append (c :: w) _)
        rw [← hs]
        exact (htail.trans hword).trans (List.suffix_append _ _)
      · cases hz
    · cases hz
  · cases h

theorem instanceShape_suffix {type name r : Text} {p : Place}
    (h : instanceShape type p = some (name, r)) : r <:+ p.after :=
  (List.suffix_cons '{' r).trans (instanceShape_opening_suffix h)

structure Assignment (field : Text) (o : Occurrence Text) where
  before : Text
  inner : Text
  outer : Text
  value : Text
  after : Text
  close : Text
  rest_eq : o.rest = before ++ '.' ::
    (inner ++ field ++ outer ++ '=' :: (value ++ (after ++ '}' :: close)))
  nested : isNested [] (before ++ '.' :: (inner ++ field ++ outer ++ '=' :: (value ++ after))) = true
  inner_blank : AllBlank inner
  outer_blank : AllBlank outer
  outside : depth before = 0
  unbroken : Unbroken value
  ends : after = [] ∨ depth value = 0 ∧ ∃ r, after = ',' :: r

namespace Assignment

variable {field : Text} {o : Occurrence Text}

def tail (a : Assignment field o) : Text :=
  a.value ++ (a.after ++ '}' :: a.close)

def offset (a : Assignment field o) (t : Text) : Nat :=
  t.length - a.tail.length

def assigned (a : Assignment field o) (t : Text) : List (Char × Role) :=
  ((roles t).drop (a.offset t)).take a.value.length

def expression (a : Assignment field o) (t : Text) : List (Char × Role) :=
  strip isGap (a.assigned t)

def start (a : Assignment field o) (t : Text) : Nat :=
  a.offset t + ((a.assigned t).takeWhile isGap).length

def span (a : Assignment field o) (t : Text) : Span where
  text := (a.expression t).map Prod.fst
  start := a.start t
  stop := a.start t + (a.expression t).length
  line := (t.take (a.start t)).count '\n' + 1

theorem tail_suffix (a : Assignment field o) : a.tail <:+ o.rest := by
  rw [a.rest_eq]
  exact ⟨a.before ++ '.' :: (a.inner ++ field ++ a.outer ++ ['=']), by simp [tail]⟩

theorem afterClose (a : Assignment field o) :
    Bracket.brace.afterClose ('{' :: o.rest) = some a.close := by
  have h := Bracket.partner_of_isNested (b := .brace) a.nested a.close
  simpa [Bracket.afterClose, Bracket.partner, Bracket.opening, Bracket.closing, a.rest_eq] using h

theorem skipBlanks_tail (a : Assignment field o) :
    skipBlanks a.tail = skipBlanks a.value ++ (a.after ++ '}' :: a.close) := by
  unfold tail
  rcases a.ends with h | ⟨-, r, h⟩
  · rw [h, List.nil_append, skipBlanks_append_cons (by decide)]
  · rw [h, List.cons_append, skipBlanks_append_cons (by decide)]

theorem expressionLength_tail (a : Assignment field o) :
    expressionLength 0 ((skipBlanks a.tail).length - a.close.length - 1) (skipBlanks a.tail) =
      (skipBlanks a.value).length := by
  have hleft : (skipBlanks a.tail).length - a.close.length - 1 =
      (skipBlanks a.value).length + a.after.length := by
    rw [skipBlanks_tail]
    simp only [List.length_append, List.length_cons]
    omega
  have hunbroken : ∀ u v, skipBlanks a.value = u ++ ',' :: v → (0 : Int) + depth u ≠ 0 := by
    intro u v h
    have hvalue : a.value = a.value.takeWhile isBlank ++ u ++ ',' :: v := by
      rw [List.append_assoc, ← h, takeWhile_append_skipBlanks]
    have := a.unbroken.depth_ne hvalue
    rwa [depth_append, depth_of_allBlank (allBlank_takeWhile _)] at this
  rw [hleft, skipBlanks_tail, expressionLength_append hunbroken, depth_skipBlanks]
  rcases a.ends with h | ⟨hdepth, r, h⟩
  · simp [h, expressionLength]
  · simp [h, hdepth, expressionLength]

/-- Whether the designator, or the beginning of a comparison that looks like it, occurs before. -/
def Preceded (a : Assignment field o) : Prop :=
  ∃ u v r, a.before = u ++ '.' :: v ∧ depth u = 0 ∧ Designates field v r

theorem length_body (a : Assignment field o) :
    ∃ n, o.rest.length - a.close.length - 1 = a.before.length + (n + 1) := by
  refine ⟨(a.inner ++ field ++ a.outer ++ '=' :: (a.value ++ a.after)).length, ?_⟩
  rw [a.rest_eq]
  simp only [List.length_append, List.length_cons]
  omega

theorem findDesignator_of_not_preceded (a : Assignment field o) (hfield : IsWord field)
    (h : ¬ a.Preceded) :
    findDesignator field 0 (o.rest.length - a.close.length - 1) o.rest =
      some (skipBlanks a.tail) := by
  obtain ⟨n, hn⟩ := a.length_body
  have hbefore : ∀ u v, a.before = u ++ '.' :: v → (0 : Int) + depth u = 0 →
      afterDesignator field (v ++ '.' :: (a.inner ++ field ++ a.outer ++ '=' :: a.tail)) = none := by
    intro u v hu hd
    refine afterDesignator_before_dot hfield fun r hr => ?_
    exact h ⟨u, v, r, hu, by simpa using hd, hr⟩
  have hhere : afterDesignator field (a.inner ++ field ++ a.outer ++ '=' :: a.tail) =
      some (skipBlanks a.tail) :=
    (afterDesignator_eq_some_iff hfield).2
      ⟨a.tail, ⟨a.inner, a.outer, rfl, a.inner_blank, a.outer_blank⟩, rfl⟩
  rw [hn, a.rest_eq]
  change findDesignator field 0 _ (a.before ++ '.' :: (a.inner ++ field ++ a.outer ++ '=' :: a.tail)) = _
  rw [findDesignator_append hbefore, findDesignator, a.outside, if_pos ⟨rfl, rfl⟩, hhere,
    Option.some_or]

theorem findDesignator_of_preceded (a : Assignment field o) (hfield : IsWord field)
    (h : a.Preceded) :
    ∃ rest, findDesignator field 0 (o.rest.length - a.close.length - 1) o.rest = some rest ∧
      a.tail.length < rest.length ∧ rest.length ≤ o.rest.length := by
  obtain ⟨n, hn⟩ := a.length_body
  obtain ⟨u, v, r, hu, hd, hr⟩ := h
  obtain ⟨rest, hrest, hlt⟩ := exists_of_early_designator hfield
    (s := a.inner ++ field ++ a.outer ++ '=' :: a.tail)
    (d := 0) ⟨u, v, r, hu, by rw [hd]; rfl, hr⟩ (n + 1)
  rw [← hn] at hrest
  have hfound : findDesignator field 0 (o.rest.length - a.close.length - 1) o.rest = some rest := by
    rw [← hrest, a.rest_eq]
    rfl
  refine ⟨rest, hfound, ?_, length_findDesignator_le hfield hfound⟩
  simp only [List.length_append, List.length_cons] at hlt
  omega

theorem valueExtent_of_rest (a : Assignment field o) {rest : Text}
    (h : findDesignator field 0 (o.rest.length - a.close.length - 1) o.rest = some rest) :
    valueExtent? field o =
      some (o.place.offset + o.place.reach rest, o.place.offset + o.place.reach rest +
        (trimEnd (rest.take
          (expressionLength 0 (rest.length - a.close.length - 1) rest))).length) := by
  simp [valueExtent?, a.afterClose, h]

section Found

variable {type t : Text}

theorem suffix_mask (a : Assignment field o)
    (ho : o ∈ (Place.start (mask t)).occurrences (instanceShape type)) :
    o.rest <:+ o.place.after ∧ o.place.text = mask t ∧ a.tail <:+ mask t := by
  have hrest := instanceShape_suffix (Place.shape_of_mem ho)
  have htext : o.place.text = mask t := Place.text_of_mem ho
  refine ⟨hrest, htext, ?_⟩
  rw [← htext]
  exact (a.tail_suffix.trans hrest).trans (List.suffix_append _ _)

theorem map_masked_assigned (a : Assignment field o) (h : a.tail <:+ mask t) :
    (a.assigned t).map masked = a.value := by
  obtain ⟨x, hx⟩ := h
  have hlength : a.offset t = x.length := by
    have := congrArg List.length hx
    rw [List.length_append, length_mask] at this
    rw [offset, ← this]
    omega
  rw [assigned, List.map_take, List.map_drop, map_masked_roles, ← hx, hlength, List.drop_left, tail,
    List.take_left]

theorem map_fst_assigned (a : Assignment field o) :
    (a.assigned t).map Prod.fst = (t.drop (a.offset t)).take a.value.length := by
  rw [assigned, List.map_take, List.map_drop, map_fst_roles]

theorem span_eq_cut (a : Assignment field o) :
    a.span t = Span.cut t (a.start t) (a.start t + (a.expression t).length) := by
  have hlength : (a.expression t).length ≤
      a.value.length - ((a.assigned t).takeWhile isGap).length := by
    have hle := length_takeWhile_add_strip_le isGap (a.assigned t)
    have hassigned : (a.assigned t).length ≤ a.value.length := List.length_take_le _ _
    rw [expression]
    omega
  have htext : (a.expression t).map Prod.fst =
      (t.drop (a.start t)).take (a.expression t).length := by
    have h := congrArg (List.map Prod.fst) (strip_eq_take isGap (a.assigned t))
    rw [List.map_take, List.map_drop, map_fst_assigned, List.drop_take, List.drop_drop,
      List.take_take, ← expression, Nat.min_eq_left hlength] at h
    exact h
  rw [span, Span.cut, htext, Nat.add_sub_cancel_left]

theorem length_skipBlanks_tail (a : Assignment field o) (h : a.tail <:+ mask t) :
    (skipBlanks a.tail).length + a.value.length =
      a.tail.length + ((a.assigned t).dropWhile fun x => isBlank (masked x)).length := by
  have hvalue : skipBlanks a.value =
      ((a.assigned t).dropWhile fun x => isBlank (masked x)).map masked := by
    rw [← a.map_masked_assigned h, skipBlanks, List.dropWhile_map]
    rfl
  rw [skipBlanks_tail, hvalue, tail]
  simp only [List.length_append, List.length_map]
  omega

theorem start_eq_iff (a : Assignment field o) (h : a.tail <:+ mask t) :
    (t.length - (skipBlanks a.tail).length = a.start t ∧
      t.length - (skipBlanks a.tail).length +
          (strip (fun x => isBlank (masked x)) (a.assigned t)).length =
        a.start t + (a.expression t).length) ↔
      ∀ x, (a.expression t).head? = some x ∨ (a.expression t).getLast? = some x →
        x.2 ≠ .literal := by
  have hskip := a.length_skipBlanks_tail h
  have htail : a.tail.length ≤ t.length := by
    simpa using h.length_le
  have hassigned : (a.assigned t).length = a.value.length := by
    simpa using congrArg List.length (a.map_masked_assigned h)
  have hvalue : a.value.length ≤ a.tail.length := by
    rw [tail, List.length_append]
    omega
  have hsplit := congrArg List.length
    (List.takeWhile_append_dropWhile (p := isGap) (l := a.assigned t))
  rw [List.length_append, hassigned] at hsplit
  have hdark := List.length_dropWhile_le (fun x => isBlank (masked x)) (a.assigned t)
  have hlengths : (t.length - (skipBlanks a.tail).length = a.start t ∧
      t.length - (skipBlanks a.tail).length +
          (strip (fun x => isBlank (masked x)) (a.assigned t)).length =
        a.start t + (a.expression t).length) ↔
      ((a.assigned t).dropWhile fun x => isBlank (masked x)).length =
          ((a.assigned t).dropWhile isGap).length ∧
        (strip (fun x => isBlank (masked x)) (a.assigned t)).length =
          (strip isGap (a.assigned t)).length := by
    rw [start, offset, expression]
    constructor <;> rintro ⟨h₁, h₂⟩ <;> constructor <;> omega
  rw [hlengths, length_strip_eq_iff isBlank_masked_of_isGap]
  exact forall_congr' fun x => forall_congr' fun hx => isBlank_masked_edge hx

theorem length_trimEnd_skipBlanks (a : Assignment field o) (h : a.tail <:+ mask t) :
    (trimEnd (skipBlanks a.value)).length =
      (strip (fun x => isBlank (masked x)) (a.assigned t)).length := by
  rw [← a.map_masked_assigned h]
  change (strip isBlank ((a.assigned t).map masked)).length = _
  rw [strip_map, List.length_map]
  rfl

theorem extent_of_rest (a : Assignment field o) {rest : Text}
    (ho : o ∈ (Place.start (mask t)).occurrences (instanceShape type))
    (h : findDesignator field 0 (o.rest.length - a.close.length - 1) o.rest = some rest)
    (hle : rest.length ≤ o.rest.length) :
    ∃ stop, valueExtent? field o = some (t.length - rest.length, stop) := by
  obtain ⟨hrest, htext, -⟩ := a.suffix_mask ho
  have hstart := Place.offset_add_reach (hle.trans hrest.length_le)
  rw [htext, length_mask] at hstart
  exact ⟨_, by rw [a.valueExtent_of_rest h, hstart]⟩

theorem extent_of_not_preceded (a : Assignment field o) (hfield : IsWord field)
    (ho : o ∈ (Place.start (mask t)).occurrences (instanceShape type)) (h : ¬ a.Preceded) :
    valueExtent? field o =
      some (t.length - (skipBlanks a.tail).length, t.length - (skipBlanks a.tail).length +
        (strip (fun x => isBlank (masked x)) (a.assigned t)).length) := by
  obtain ⟨hrest, htext, htail⟩ := a.suffix_mask ho
  have hle : (skipBlanks a.tail).length ≤ o.place.after.length := by
    have hblanks := List.length_dropWhile_le isBlank a.tail
    exact (hblanks.trans a.tail_suffix.length_le).trans hrest.length_le
  rw [a.valueExtent_of_rest (a.findDesignator_of_not_preceded hfield h), a.expressionLength_tail,
    Place.offset_add_reach hle, htext, length_mask, ← a.length_trimEnd_skipBlanks htail,
    a.skipBlanks_tail, List.take_left]

end Found

end Assignment

theorem valueSpans_append (field t : Text) (wanted : Option Text) (l l' : List (Occurrence Text)) :
    valueSpans field t wanted (l ++ l') =
      valueSpans field t wanted l ++ valueSpans field t wanted l' := by
  simp [valueSpans]

theorem valueSpans_cons {field t : Text} {wanted : Option Text} {o : Occurrence Text}
    {l : List (Occurrence Text)} {i j : Nat} (hwanted : wanted.all (· == o.value) = true)
    (h : valueExtent? field o = some (i, j)) :
    valueSpans field t wanted (o :: l) = Span.cut t i j :: valueSpans field t wanted l := by
  simp [valueSpans, hwanted, h]

theorem cut_eq_cut_iff {t : Text} {i j i' j' : Nat} :
    Span.cut t i j = Span.cut t i' j' ↔ i = i' ∧ j = j' := by
  constructor
  · intro h
    exact ⟨congrArg Span.start h, congrArg Span.stop h⟩
  · rintro ⟨rfl, rfl⟩
    rfl

theorem find_initializers_in_full_iff {type field t : Text} {wanted : Option Text}
    {earlier later : List (Occurrence Text)} {o : Occurrence Text} (hfield : IsWord field)
    (hinstances : (Place.start (mask t)).occurrences (instanceShape type) = earlier ++ o :: later)
    (hwanted : wanted.all (· == o.value) = true) (a : Assignment field o) :
    findInitializers type field t wanted =
        valueSpans field t wanted earlier ++ a.span t :: valueSpans field t wanted later ↔
      ¬ a.Preceded ∧
        ∀ x, (a.expression t).head? = some x ∨ (a.expression t).getLast? = some x →
          x.2 ≠ .literal := by
  have ho : o ∈ (Place.start (mask t)).occurrences (instanceShape type) := by
    rw [hinstances]
    simp
  obtain ⟨hrest, htext, htail⟩ := a.suffix_mask ho
  have hspan {i j : Nat} (h : valueExtent? field o = some (i, j)) :
      findInitializers type field t wanted =
          valueSpans field t wanted earlier ++ a.span t :: valueSpans field t wanted later ↔
        i = a.start t ∧ j = a.start t + (a.expression t).length := by
    rw [findInitializers, hinstances, valueSpans_append, valueSpans_cons hwanted h,
      List.append_cancel_left_eq, List.cons.injEq, and_iff_left rfl, a.span_eq_cut, cut_eq_cut_iff]
  by_cases hpreceded : a.Preceded
  · obtain ⟨rest, hfound, hlt, hle⟩ := a.findDesignator_of_preceded hfield hpreceded
    obtain ⟨stop, hextent⟩ := a.extent_of_rest ho hfound hle
    rw [hspan hextent]
    refine iff_of_false ?_ fun h => h.1 hpreceded
    rintro ⟨hi, -⟩
    have hlength : o.rest.length ≤ t.length := by
      have := Place.length_text o.place
      rw [htext, length_mask] at this
      have := hrest.length_le
      omega
    rw [Assignment.start, Assignment.offset] at hi
    omega
  · rw [hspan (a.extent_of_not_preceded hfield ho hpreceded), a.start_eq_iff htail]
    exact (and_iff_right hpreceded).symm

def callText : Text :=
  "struct drv d = \x7b .a = \x7b 1, \"x\" \x7d, .name = /* c */ g(\"a,b\", 2) /* d */, \x7d;".toList

def callInstance : Occurrence Text :=
  ⟨Place.start (mask callText), "d".toList, (mask callText).drop 16⟩

def callAssignment : Assignment "name".toList callInstance where
  before := (mask callText).extract 16 34
  inner := []
  outer := [' ']
  value := (mask callText).extract 41 69
  after := ", ".toList
  close := ";".toList
  rest_eq := by decide +kernel
  nested := by decide +kernel
  inner_blank := allBlank_nil
  outer_blank := allBlank_space
  outside := by decide +kernel
  unbroken := by decide +kernel
  ends := .inr ⟨by decide +kernel, _, rfl⟩

theorem call_found_between_comments :
    findInitializers "drv".toList "name".toList callText none = [callAssignment.span callText] ∧
      (callAssignment.span callText).text = "g(\"a,b\", 2)".toList ∧ ¬ callAssignment.Preceded := by
  have hfound : findInitializers "drv".toList "name".toList callText none =
      [callAssignment.span callText] := by
    decide +kernel
  have hinstances : (Place.start (mask callText)).occurrences (instanceShape "drv".toList) =
      [] ++ callInstance :: [] := by
    decide +kernel
  have hwanted : (none : Option Text).all (· == callInstance.value) = true := rfl
  have hfield : IsWord "name".toList := by decide +kernel
  have h := find_initializers_in_full_iff hfield hinstances hwanted callAssignment
  exact ⟨hfound, by decide +kernel, (h.1 hfound).1⟩

def literalText : Text :=
  "struct drv d = \x7b .name = \"ice\" \x7d;".toList

def literalInstance : Occurrence Text :=
  ⟨Place.start (mask literalText), "d".toList, (mask literalText).drop 16⟩

def literalAssignment : Assignment "name".toList literalInstance where
  before := [' ']
  inner := []
  outer := [' ']
  value := (mask literalText).extract 24 31
  after := []
  close := [';']
  rest_eq := by decide +kernel
  nested := by decide +kernel
  inner_blank := allBlank_nil
  outer_blank := allBlank_space
  outside := by decide +kernel
  unbroken := by decide +kernel
  ends := .inl rfl

theorem literal_value_lost :
    (literalAssignment.span literalText).text = "\"ice\"".toList ∧
      findInitializers "drv".toList "name".toList literalText none = [⟨[], 31, 31, 1⟩] := by
  decide +kernel

end HeaderProbe
