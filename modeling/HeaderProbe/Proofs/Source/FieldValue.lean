import HeaderProbe.Proofs.Source.FieldReading

namespace HeaderProbe

open Text

def contributions (type field t : Text) (wanted : Option Text) : List (Occurrence Text × Span) :=
  (((Place.start (mask t)).occurrences (instanceShape type)).filter
    fun o => wanted.all (· == o.value)).filterMap fun o => (valueSpan? field t o).map (o, ·)

section

variable {type field t : Text} {wanted : Option Text}

theorem map_snd_contributions :
    (contributions type field t wanted).map Prod.snd = findInitializers type field t wanted := by
  rw [contributions, findInitializers_eq, List.map_filterMap]
  simp [Function.comp_def]

theorem mem_contributions_iff {o : Occurrence Text} {s : Span} :
    (o, s) ∈ contributions type field t wanted ↔
      o ∈ (Place.start (mask t)).occurrences (instanceShape type) ∧ (∀ w, wanted = some w → w = o.value) ∧
        valueSpan? field t o = some s := by
  have hwanted {o : Occurrence Text} :
      wanted.all (· == o.value) = true ↔ ∀ w, wanted = some w → w = o.value := by
    cases wanted <;> simp
  simp only [contributions, List.mem_filterMap, List.mem_filter, hwanted, Option.map_eq_some_iff,
    Prod.mk.injEq]
  constructor
  · rintro ⟨o', ⟨ho, hname⟩, s', hs, rfl, rfl⟩
    exact ⟨ho, hname, hs⟩
  · rintro ⟨ho, hname, hs⟩
    exact ⟨o, ⟨ho, hname⟩, s, hs, rfl, rfl⟩

end

theorem pairwise_contributions {type t : Text} (field : Text) (wanted : Option Text)
    {R : Occurrence Text → Occurrence Text → Prop}
    (h : ((Place.start (mask t)).occurrences (instanceShape type)).Pairwise R) :
    (contributions type field t wanted).Pairwise fun x y => R x.1 y.1 := by
  refine List.Pairwise.filterMap _ (fun o o' hR x hx y hy => ?_) (h.filter _)
  obtain ⟨s, -, rfl⟩ := Option.map_eq_some_iff.1 hx
  obtain ⟨s', -, rfl⟩ := Option.map_eq_some_iff.1 hy
  exact hR

theorem exists_of_expressionLength (d : Int) (s : Text) :
    ∃ u v, s = u ++ v ∧ expressionLength d s.length s = u.length ∧
      (∀ x y, u = x ++ ',' :: y → d + depth x ≠ 0) ∧ (v = [] ∨ d + depth u = 0 ∧ ∃ r, v = ',' :: r) := by
  induction s generalizing d with
  | nil => exact ⟨[], [], rfl, rfl, by simp, .inl rfl⟩
  | cons c s ih =>
    rw [List.length_cons, expressionLength]
    split
    · next hcomma =>
      obtain ⟨rfl, rfl⟩ := hcomma
      exact ⟨[], ',' :: s, rfl, rfl, by simp, .inr ⟨by simp, s, rfl⟩⟩
    · next hcomma =>
      obtain ⟨u, v, rfl, hlength, hunbroken, hends⟩ := ih (d + nesting c)
      refine ⟨c :: u, v, rfl, by rw [hlength, List.length_cons], fun x y hxy => ?_, ?_⟩
      · cases x with
        | nil =>
          obtain ⟨rfl, -⟩ := List.cons.inj hxy
          simpa using hcomma
        | cons e x =>
          obtain ⟨rfl, hu⟩ := List.cons.inj hxy
          rw [depth_cons, ← Int.add_assoc]
          exact hunbroken x y hu
      · rwa [depth_cons, ← Int.add_assoc]

structure FoundValue (field t : Text) (o : Occurrence Text) where
  head : Text
  before : Text
  sign : Text
  value : Text
  gap : Text
  after : Text
  close : Text
  mask_eq : mask t = head ++ '{' :: o.rest
  rest_eq : o.rest = before ++ '.' :: (sign ++ (value ++ (gap ++ (after ++ '}' :: close))))
  closes : Bracket.brace.afterClose ('{' :: o.rest) = some close
  outside : depth before = 0
  bare : ∀ c ∈ sign, nesting c = 0
  blank : AllBlank gap
  unbroken : Unbroken value
  ends : after = [] ∨ depth value = 0 ∧ ∃ r, after = ',' :: r

namespace FoundValue

variable {type field t : Text} {o : Occurrence Text}

def lead (f : FoundValue field t o) : Text :=
  f.before ++ '.' :: f.sign

def body (f : FoundValue field t o) : Text :=
  f.lead ++ (f.value ++ (f.gap ++ f.after))

def opening (f : FoundValue field t o) : Nat :=
  f.head.length

def closing (f : FoundValue field t o) : Nat :=
  f.opening + 1 + f.body.length

def start (f : FoundValue field t o) : Nat :=
  f.opening + 1 + f.lead.length

def stop (f : FoundValue field t o) : Nat :=
  f.start + f.value.length

def limit (f : FoundValue field t o) : Nat :=
  f.stop + f.gap.length

def span (f : FoundValue field t o) : Span :=
  Span.cut t f.start f.stop

end FoundValue

namespace FieldReading

variable {field t : Text} {o : Occurrence Text} (a : FieldReading field o)

def sign : Text :=
  a.inner ++ field ++ a.outer ++ '=' :: a.tail.takeWhile isBlank

theorem nesting_sign (hfield : IsWord field) : ∀ c ∈ a.sign, nesting c = 0 := by
  intro c hc
  simp only [sign, List.mem_append, List.mem_cons] at hc
  rcases hc with ((hc | hc) | hc) | rfl | hc
  · exact nesting_of_isBlank (a.inner_blank c hc)
  · exact nesting_of_isWordChar (hfield.isWordChar hc)
  · exact nesting_of_isBlank (a.outer_blank c hc)
  · decide
  · exact nesting_of_isBlank (allBlank_takeWhile a.tail c hc)

theorem exists_value : ∃ gap after, skipBlanks a.tail = trimEnd a.value ++ (gap ++ after) ∧
    AllBlank gap ∧ Unbroken (trimEnd a.value) ∧
      (after = [] ∨ depth (trimEnd a.value) = 0 ∧ ∃ r, after = ',' :: r) := by
  obtain ⟨u, after, hskip, hlength, hunbroken, hends⟩ := exists_of_expressionLength 0 (skipBlanks a.tail)
  simp only [Int.zero_add] at hunbroken hends
  have hvalue : a.value = u := by rw [value, hlength, hskip, List.take_left]
  obtain ⟨gap, hgap, hu⟩ := exists_of_trimEnd u
  -- The scan ends behind the blanks that are trimmed, which do not change the depth.
  have hdepth : depth u = depth (trimEnd u) := by
    rw [hu, depth_append, depth_of_allBlank hgap, Int.add_zero, ← hu]
  rw [hvalue]
  refine ⟨gap, after, ?_, hgap, unbroken_iff.2 fun x y hxy => ?_, by rwa [← hdepth]⟩
  · rw [← List.append_assoc, ← hu, hskip]
  · exact hunbroken x (y ++ gap) (by rw [hu, hxy]; simp)

end FieldReading

theorem exists_found_value {type field t : Text} {o : Occurrence Text} {s : Span} (hfield : IsWord field)
    (ho : o ∈ (Place.start (mask t)).occurrences (instanceShape type))
    (hs : valueSpan? field t o = some s) : ∃ f : FoundValue field t o, s = f.span := by
  obtain ⟨a, ha⟩ : ∃ a : FieldReading field o, a.IsFirst := by
    by_contra hnone
    rw [FieldReading.valueSpan?_eq_none hfield fun a => hnone a.exists_first] at hs
    cases hs
  rw [FieldReading.valueSpan?_eq hfield ho ha] at hs
  obtain rfl := Option.some.inj hs
  obtain ⟨head, hhead⟩ : '{' :: o.rest <:+ mask t := by
    have hopening := instanceShape_opening_suffix (Place.shape_of_mem ho)
    rw [← Place.text_start (mask t), ← Place.text_of_mem ho]
    exact hopening.trans (List.suffix_append _ _)
  obtain ⟨gap, after, hskip, hgap, hunbroken, hends⟩ := a.exists_value
  have hrest : o.rest =
      a.before ++ '.' :: (a.sign ++ (trimEnd a.value ++ (gap ++ (after ++ '}' :: a.close)))) := by
    rw [a.rest_eq, FieldReading.sign]
    conv_lhs => rw [← takeWhile_append_skipBlanks a.tail, hskip]
    simp
  let f : FoundValue field t o :=
    { head, before := a.before, sign := a.sign, value := trimEnd a.value, gap, after, close := a.close
      mask_eq := hhead.symm, rest_eq := hrest, closes := a.closes, outside := a.outside
      bare := a.nesting_sign hfield, blank := hgap, unbroken := hunbroken, ends := hends }
  have hstart : a.start t = f.start := by
    have hmask := congrArg List.length f.mask_eq
    rw [length_mask, f.rest_eq] at hmask
    rw [FieldReading.start, hskip]
    simp only [FoundValue.start, FoundValue.opening, FoundValue.lead, f, List.length_append,
      List.length_cons] at hmask ⊢
    omega
  refine ⟨f, ?_⟩
  rw [FieldReading.span, hstart]
  rfl

theorem extract_append (a b c : Text) : (a ++ (b ++ c)).extract a.length (a.length + b.length) = b := by
  rw [List.extract_eq_take_drop, List.drop_left, Nat.add_sub_cancel_left, List.take_left]

structure HasBody (m : Text) (o : Occurrence Text) (b e : Nat) : Prop where
  stop_eq : o.stop = b + 1
  opens : m[b]? = some '{'
  closes : matchClose m b = some (e + 1)

instance (m : Text) (o : Occurrence Text) (b e : Nat) : Decidable (HasBody m o b e) :=
  decidable_of_iff (o.stop = b + 1 ∧ m[b]? = some '{' ∧ matchClose m b = some (e + 1))
    ⟨fun ⟨h, hopen, hclose⟩ => ⟨h, hopen, hclose⟩, fun ⟨h, hopen, hclose⟩ => ⟨h, hopen, hclose⟩⟩

theorem HasBody.unique {m : Text} {o : Occurrence Text} {b e b' e' : Nat} (h : HasBody m o b e)
    (h' : HasBody m o b' e') : b = b' ∧ e = e' := by
  have hstop := h.stop_eq.symm.trans h'.stop_eq
  obtain rfl : b = b' := by omega
  exact ⟨rfl, Nat.succ.inj (Option.some.inj (h.closes.symm.trans h'.closes))⟩

/-- A value that lies between the braces at `b` and `e` and is a whole expression there, if all brackets
between them find their partners. -/
structure CompleteValue (m : Text) (b e : Nat) (s : Span) : Prop where
  opened : b < s.start
  ordered : s.start ≤ s.stop
  closed : s.stop ≤ e
  nested : isNested [] (m.extract (b + 1) e) = true → isNested [] (m.extract s.start s.stop) = true
  unbroken : Unbroken (m.extract s.start s.stop)
  followed : isNested [] (m.extract (b + 1) e) = true →
    ∃ n, s.stop ≤ n ∧ AllBlank (m.extract s.stop n) ∧
      (n = e ∨ n < e ∧ m[n]? = some ',' ∧ isNested [] (m.extract (b + 1) n) = true)

namespace FoundValue

variable {type field t : Text} {o : Occurrence Text} (f : FoundValue field t o)

theorem rest_eq_body : o.rest = f.body ++ '}' :: f.close := by
  rw [f.rest_eq, body, lead]
  simp

theorem depth_lead : depth f.lead = 0 := by
  have hdot : nesting '.' = 0 := by decide
  rw [lead, depth_append, depth_cons, f.outside, hdot, depth_eq_zero f.bare]
  rfl

theorem limit_add_length : f.limit + f.after.length = f.closing := by
  simp only [limit, stop, start, closing, body, List.length_append]
  omega

theorem hasBody (ho : o ∈ (Place.start (mask t)).occurrences (instanceShape type)) :
    HasBody (mask t) o f.opening f.closing where
  stop_eq := by
    have hle := (instanceShape_suffix (Place.shape_of_mem ho)).length_le
    have hmask := congrArg List.length f.mask_eq
    rw [Occurrence.stop, Place.offset_add_reach hle, Place.text_of_mem ho, Place.text_start, hmask, opening]
    simp only [List.length_append, List.length_cons]
    omega
  opens := by rw [f.mask_eq, opening, List.getElem?_append_right (le_refl _), Nat.sub_self]; rfl
  closes := by
    have hclose := matchClose_of_afterClose (b := .brace) (a := f.head) f.closes
    rw [f.mask_eq, opening]
    refine hclose.trans ?_
    rw [closing, opening, f.rest_eq_body]
    simp only [List.length_append, List.length_cons, Option.some.injEq]
    omega

theorem extract_body (x y z : Text) (h : f.body = x ++ (y ++ z)) :
    (mask t).extract (f.opening + 1 + x.length) (f.opening + 1 + x.length + y.length) = y := by
  have hmask : mask t = (f.head ++ '{' :: x) ++ (y ++ (z ++ '}' :: f.close)) := by
    rw [f.mask_eq, f.rest_eq_body, h]
    simp
  have hlength : f.opening + 1 + x.length = (f.head ++ '{' :: x).length := by
    simp only [opening, List.length_append, List.length_cons]
    omega
  rw [hmask, hlength, extract_append]

theorem extract_value : (mask t).extract f.start f.stop = f.value :=
  f.extract_body f.lead f.value (f.gap ++ f.after) rfl

theorem extract_gap : (mask t).extract f.stop f.limit = f.gap := by
  have hgap := f.extract_body (f.lead ++ f.value) f.gap f.after (by rw [body, List.append_assoc])
  rwa [List.length_append, ← Nat.add_assoc] at hgap

theorem extract_whole : (mask t).extract (f.opening + 1) f.closing = f.body :=
  f.extract_body [] f.body [] (by simp)

theorem isNested_parts (h : isNested [] f.body = true) :
    isNested [] f.lead = true ∧ isNested [] f.value = true := by
  obtain ⟨hlead, hrest⟩ := isNested_append h f.depth_lead
  have hvalue : depth f.value = 0 := by
    rcases f.ends with hafter | ⟨hdepth, -⟩
    · have hall := depth_of_isNested hrest
      rwa [hafter, List.append_nil, depth_append, depth_of_allBlank f.blank, Int.add_zero] at hall
    · exact hdepth
  exact ⟨hlead, (isNested_append hrest hvalue).1⟩

section

variable {r : Text} (hafter : f.after = ',' :: r)
include hafter

theorem body_eq_comma : f.body = (f.lead ++ (f.value ++ f.gap)) ++ ',' :: r := by
  rw [body, hafter]
  simp

omit hafter in
theorem limit_eq : f.opening + 1 + (f.lead ++ (f.value ++ f.gap)).length = f.limit := by
  simp only [limit, stop, start, List.length_append]
  omega

theorem getElem?_limit : (mask t)[f.limit]? = some ',' := by
  have hcomma := f.extract_body (f.lead ++ (f.value ++ f.gap)) [','] r (f.body_eq_comma hafter)
  rw [f.limit_eq, List.extract_eq_take_drop, List.length_singleton, Nat.add_sub_cancel_left] at hcomma
  have hhead := congrArg List.head? hcomma
  rwa [List.head?_take, if_neg Nat.one_ne_zero, List.head?_drop] at hhead

theorem isNested_before_comma (h : isNested [] f.body = true) (hdepth : depth f.value = 0) :
    isNested [] ((mask t).extract (f.opening + 1) f.limit) = true := by
  have hbefore := f.extract_body [] (f.lead ++ (f.value ++ f.gap)) (',' :: r) (f.body_eq_comma hafter)
  rw [List.length_nil, Nat.add_zero, f.limit_eq] at hbefore
  have hzero : depth (f.lead ++ (f.value ++ f.gap)) = 0 := by
    rw [depth_append, depth_append, f.depth_lead, hdepth, depth_of_allBlank f.blank]
    rfl
  rw [f.body_eq_comma hafter] at h
  rw [hbefore]
  exact (isNested_append h hzero).1

end

theorem completeValue : CompleteValue (mask t) f.opening f.closing f.span where
  opened := by
    change f.opening < f.start
    rw [start]
    omega
  ordered := Nat.le_add_right f.start f.value.length
  closed := by
    have hlimit := f.limit_add_length
    change f.stop ≤ f.closing
    rw [limit] at hlimit
    omega
  nested h := by
    rw [f.extract_whole] at h
    rw [span, Span.cut, f.extract_value]
    exact (f.isNested_parts h).2
  unbroken := by
    rw [span, Span.cut, f.extract_value]
    exact f.unbroken
  followed h := by
    rw [f.extract_whole] at h
    refine ⟨f.limit, Nat.le_add_right _ _, ?_, ?_⟩
    · change AllBlank ((mask t).extract f.stop f.limit)
      rw [f.extract_gap]
      exact f.blank
    · rcases f.ends with hafter | ⟨hdepth, r, hafter⟩
      · left
        rw [← f.limit_add_length, hafter, List.length_nil, Nat.add_zero]
      · right
        have hlimit := f.limit_add_length
        rw [hafter, List.length_cons] at hlimit
        exact ⟨by omega, f.getElem?_limit hafter, f.isNested_before_comma hafter h hdepth⟩

end FoundValue

theorem values_complete_in_instances {type field t : Text} (wanted : Option Text) (hfield : IsWord field) :
    findInitializers type field t wanted = (contributions type field t wanted).map Prod.snd ∧
      (contributions type field t wanted).Pairwise (fun x y => x.1.place.offset < y.1.place.offset) ∧
      ∀ o s, (o, s) ∈ contributions type field t wanted →
        o ∈ (Place.start (mask t)).occurrences (instanceShape type) ∧ (∀ w, wanted = some w → w = o.value) ∧
          ∃ b e, HasBody (mask t) o b e ∧ CompleteValue (mask t) b e s := by
  refine ⟨map_snd_contributions.symm,
    pairwise_contributions field wanted (Place.pairwise_occurrences _ _), fun o s h => ?_⟩
  obtain ⟨ho, hname, hs⟩ := mem_contributions_iff.1 h
  obtain ⟨f, rfl⟩ := exists_found_value hfield ho hs
  exact ⟨ho, hname, f.opening, f.closing, f.hasBody ho, f.completeValue⟩

def listedText : Text :=
  "struct T u = \x7b .f = 1 \x7d; struct T v = \x7b .a = \x7b 2, 3 \x7d, .f = g(4, 5) , .b = 6 \x7d;".toList

def listedInstance : Occurrence Text :=
  ⟨Place.of (mask listedText) 25, ['v'], (mask listedText).drop 39⟩

theorem call_complete_in_named_instance :
    findInitializers ['T'] ['f'] listedText (some ['v']) = [⟨"g(4, 5)".toList, 60, 67, 1⟩] ∧
      isNested [] ((mask listedText).extract 39 77) = true ∧
      CompleteValue (mask listedText) 38 77 ⟨"g(4, 5)".toList, 60, 67, 1⟩ := by
  have hfield : IsWord ['f'] := by decide +kernel
  have hfound : contributions ['T'] ['f'] listedText (some ['v']) =
      [(listedInstance, ⟨"g(4, 5)".toList, 60, 67, 1⟩)] := by
    decide +kernel
  obtain ⟨hlist, -, hall⟩ : findInitializers ['T'] ['f'] listedText (some ['v']) = _ ∧ _ :=
    values_complete_in_instances (some ['v']) hfield
  rw [hfound] at hlist hall
  obtain ⟨-, -, b, e, hbody, hvalue⟩ := hall _ _ (List.mem_cons_self ..)
  have hbraces : HasBody (mask listedText) listedInstance 38 77 := by decide +kernel
  obtain ⟨rfl, rfl⟩ := hbody.unique hbraces
  exact ⟨hlist, by decide +kernel, hvalue⟩

end HeaderProbe
