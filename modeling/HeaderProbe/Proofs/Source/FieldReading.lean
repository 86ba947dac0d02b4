import HeaderProbe.Proofs.Source.Initializer
import HeaderProbe.Proofs.Source.Partner

namespace HeaderProbe

open Text

theorem Designates.functional {field s r r' : Text} (hfield : IsWord field) (h : Designates field s r)
    (h' : Designates field s r') : r = r' := by
  have hskip {x : Text} (hx : Designates field s x) :
      ∃ outer, AllBlank outer ∧ skipBlanks s = field ++ (outer ++ '=' :: x) := by
    obtain ⟨inner, outer, rfl, hinner, houter⟩ := hx
    refine ⟨outer, houter, ?_⟩
    rw [List.append_assoc, List.append_assoc, skipBlanks_append hinner, skipBlanks_word hfield]
  obtain ⟨outer, houter, hs⟩ := hskip h
  obtain ⟨outer', houter', hs'⟩ := hskip h'
  rw [hs, List.append_cancel_left_eq] at hs'
  have hrest := congrArg skipBlanks hs'
  rw [skipBlanks_append houter, skipBlanks_append houter', skipBlanks_cons rfl, skipBlanks_cons rfl] at hrest
  exact (List.cons.inj hrest).2

theorem expressionLength_of_append (d : Int) (s x : Text) :
    expressionLength d s.length (s ++ x) = expressionLength d s.length s := by
  induction s generalizing d with
  | nil => simp [expressionLength]
  | cons c s ih =>
    simp only [List.length_cons, List.cons_append, expressionLength, ih]

theorem expressionLength_le (d : Int) (n : Nat) (s : Text) : expressionLength d n s ≤ s.length := by
  induction s generalizing d n with
  | nil => cases n <;> exact Nat.zero_le _
  | cons c s ih =>
    cases n with
    | zero => exact Nat.zero_le _
    | succ n =>
      rw [expressionLength]
      split
      · exact Nat.zero_le _
      · exact Nat.succ_le_succ (ih _ n)

def valueSpan? (field t : Text) (o : Occurrence Text) : Option Span :=
  (valueExtent? field o).map fun (start, stop) => Span.cut t start stop

theorem findInitializers_eq (type field t : Text) (wanted : Option Text) :
    findInitializers type field t wanted =
      (((Place.start (mask t)).occurrences (instanceShape type)).filter
        fun o => wanted.all (· == o.value)).filterMap (valueSpan? field t) := by
  rw [findInitializers, valueSpans, List.map_filterMap]
  rfl

structure FieldReading (field : Text) (o : Occurrence Text) where
  before : Text
  inner : Text
  outer : Text
  tail : Text
  close : Text
  rest_eq : o.rest = before ++ '.' :: (inner ++ field ++ outer ++ '=' :: (tail ++ '\x7d' :: close))
  closes : Bracket.brace.afterClose ('\x7b' :: o.rest) = some close
  inner_blank : AllBlank inner
  outer_blank : AllBlank outer
  outside : depth before = 0

namespace FieldReading

variable {type field t : Text} {o : Occurrence Text}

def shown (a : FieldReading field o) (t : Text) : List (Char × Role) :=
  ((roles t).drop (t.length - o.rest.length)).take a.before.length

def IsDesignator (a : FieldReading field o) (t : Text) : Prop :=
  ((a.shown t).reverse.dropWhile isGap).head?.all (· == (',', .code)) = true ∧ a.tail.head? ≠ some '='

instance (a : FieldReading field o) (t : Text) : Decidable (a.IsDesignator t) :=
  inferInstanceAs (Decidable (_ ∧ _))

def start (a : FieldReading field o) (t : Text) : Nat :=
  t.length - ((skipBlanks a.tail).length + (a.close.length + 1))

def value (a : FieldReading field o) : Text :=
  (skipBlanks a.tail).take (expressionLength 0 (skipBlanks a.tail).length (skipBlanks a.tail))

def span (a : FieldReading field o) (t : Text) : Span :=
  Span.cut t (a.start t) (a.start t + (trimEnd a.value).length)

def IsFirst (a : FieldReading field o) : Prop :=
  ∀ b : FieldReading field o, a.before.length ≤ b.before.length

theorem designates (a : FieldReading field o) :
    Designates field (a.inner ++ field ++ a.outer ++ '=' :: (a.tail ++ '\x7d' :: a.close))
      (a.tail ++ '\x7d' :: a.close) :=
  ⟨a.inner, a.outer, rfl, a.inner_blank, a.outer_blank⟩

theorem close_eq (a b : FieldReading field o) : a.close = b.close :=
  Option.some.inj (a.closes.symm.trans b.closes)

theorem exists_first (a : FieldReading field o) : ∃ b : FieldReading field o, b.IsFirst := by
  generalize hn : a.before.length = n
  induction n using Nat.strongRecOn generalizing a with
  | ind n ih =>
    by_cases hfirst : a.IsFirst
    · exact ⟨a, hfirst⟩
    · simp only [IsFirst, not_forall, Nat.not_le] at hfirst
      obtain ⟨b, hb⟩ := hfirst
      exact ih b.before.length (by omega) b rfl

theorem before_cases (hfield : IsWord field) (a b : FieldReading field o)
    (h : a.before.length ≤ b.before.length) :
    a.before = b.before ∧ a.tail = b.tail ∨
      ∃ v r, b.before = a.before ++ '.' :: v ∧ Designates field v r ∧
        a.tail = r ++ '.' :: (b.inner ++ field ++ b.outer ++ '=' :: b.tail) := by
  obtain ⟨x, hx⟩ : a.before <+: b.before :=
    List.prefix_of_prefix_length_le ⟨_, a.rest_eq.symm⟩ ⟨_, b.rest_eq.symm⟩ h
  have hrest := a.rest_eq.symm.trans b.rest_eq
  rw [← hx, List.append_assoc a.before x, List.append_cancel_left_eq] at hrest
  have hdesignates := a.designates
  rw [a.close_eq b] at hrest hdesignates
  cases x with
  | nil =>
    left
    rw [List.nil_append, List.cons.injEq] at hrest
    rw [hrest.2] at hdesignates
    rw [List.append_nil] at hx
    exact ⟨hx, List.append_cancel_right (hdesignates.functional hfield b.designates)⟩
  | cons c v =>
    right
    rw [List.cons_append, List.cons.injEq] at hrest
    obtain ⟨rfl, hrest⟩ := hrest
    rw [hrest] at hdesignates
    obtain ⟨r, hr, htail⟩ := (designates_before_dot hfield).1 hdesignates
    refine ⟨v, r, hx.symm, hr, ?_⟩
    apply List.append_cancel_right
    rw [htail]
    simp

theorem isDesignator_congr (hfield : IsWord field) {a b : FieldReading field o}
    (h : a.before.length = b.before.length) : a.IsDesignator t ↔ b.IsDesignator t := by
  rcases a.before_cases hfield b h.le with ⟨-, htail⟩ | ⟨v, -, hbefore, -⟩
  · rw [IsDesignator, IsDesignator, shown, shown, h, htail]
  · rw [hbefore, List.length_append, List.length_cons] at h
    omega

theorem length_tail_lt (hfield : IsWord field) {a b : FieldReading field o}
    (h : a.before.length < b.before.length) : (skipBlanks b.tail).length < (skipBlanks a.tail).length := by
  rcases a.before_cases hfield b h.le with ⟨hbefore, -⟩ | ⟨v, r, -, -, htail⟩
  · rw [hbefore] at h
    omega
  · have hskip : (skipBlanks b.tail).length ≤ b.tail.length := List.length_dropWhile_le isBlank b.tail
    rw [htail, skipBlanks_append_cons rfl]
    simp only [List.length_append, List.length_cons]
    omega

theorem findDesignator_eq (hfield : IsWord field) {a : FieldReading field o} (h : a.IsFirst) :
    findDesignator field 0 (o.rest.length - a.close.length - 1) o.rest =
      some (skipBlanks a.tail ++ '\x7d' :: a.close) := by
  obtain ⟨n, hn⟩ : ∃ n, o.rest.length - a.close.length - 1 = a.before.length + (n + 1) := by
    refine ⟨(a.inner ++ field ++ a.outer ++ '=' :: a.tail).length, ?_⟩
    rw [a.rest_eq]
    simp only [List.length_append, List.length_cons]
    omega
  have hearlier : ∀ u v, a.before = u ++ '.' :: v → (0 : Int) + depth u = 0 → afterDesignator field
      (v ++ '.' :: (a.inner ++ field ++ a.outer ++ '=' :: (a.tail ++ '\x7d' :: a.close))) = none := by
    intro u v hu hd
    refine afterDesignator_before_dot hfield fun r hr => ?_
    obtain ⟨inner, outer, rfl, hinner, houter⟩ := hr
    let b : FieldReading field o :=
      { before := u, inner, outer, tail := r ++ '.' :: (a.inner ++ field ++ a.outer ++ '=' :: a.tail)
        close := a.close
        rest_eq := by rw [a.rest_eq, hu]; simp
        closes := a.closes, inner_blank := hinner, outer_blank := houter
        outside := by rwa [Int.zero_add] at hd }
    have hle := h b
    rw [hu, List.length_append, List.length_cons] at hle
    change _ ≤ u.length at hle
    omega
  have hhere := (afterDesignator_eq_some_iff hfield).2 ⟨_, a.designates, rfl⟩
  rw [skipBlanks_append_cons rfl] at hhere
  rw [hn, a.rest_eq, findDesignator_append hearlier, findDesignator, a.outside, if_pos ⟨rfl, rfl⟩, hhere,
    Option.some_or]

theorem valueSpan?_eq (hfield : IsWord field)
    (ho : o ∈ (Place.start (mask t)).occurrences (instanceShape type)) {a : FieldReading field o}
    (h : a.IsFirst) : valueSpan? field t o = some (a.span t) := by
  have hfound := findDesignator_eq hfield h
  have hlen : (skipBlanks a.tail ++ '\x7d' :: a.close).length - a.close.length - 1 =
      (skipBlanks a.tail).length := by
    simp only [List.length_append, List.length_cons]
    omega
  have hle : (skipBlanks a.tail ++ '\x7d' :: a.close).length ≤ o.place.after.length := by
    have hrest := (instanceShape_suffix (Place.shape_of_mem ho)).length_le
    have hskip : (skipBlanks a.tail).length ≤ a.tail.length := List.length_dropWhile_le isBlank a.tail
    rw [a.rest_eq] at hrest
    simp only [List.length_append, List.length_cons] at hrest ⊢
    omega
  have hstart := Place.offset_add_reach hle
  rw [Place.text_of_mem ho, Place.text_start, length_mask, List.length_append, List.length_cons] at hstart
  have hvalue : (skipBlanks a.tail ++ '\x7d' :: a.close).take
      (expressionLength 0 (skipBlanks a.tail).length (skipBlanks a.tail)) = a.value := by
    rw [List.take_append_of_le_length (expressionLength_le 0 _ _)]
    rfl
  simp only [valueSpan?, valueExtent?, a.closes, hfound, hlen, expressionLength_of_append, hvalue, hstart,
    Option.bind_eq_bind, Option.bind_some]
  rfl

theorem valueSpan?_eq_none (hfield : IsWord field) (h : FieldReading field o → False) :
    valueSpan? field t o = none := by
  cases hclose : Bracket.brace.afterClose ('\x7b' :: o.rest) with
  | none => simp [valueSpan?, valueExtent?, hclose]
  | some close =>
    obtain ⟨u, hu, -⟩ := Bracket.partner_eq_some_iff.1 hclose
    obtain ⟨body, hbody⟩ : ∃ body, o.rest = body ++ '\x7d' :: close := by
      cases u with
      | nil => cases (List.cons.inj hu).1
      | cons c body => exact ⟨body, (List.cons.inj hu).2⟩
    have hlen : o.rest.length - close.length - 1 = body.length := by
      rw [hbody, List.length_append, List.length_cons]
      omega
    have hnone : ∀ u v, body = u ++ '.' :: v → (0 : Int) + depth u = 0 →
        afterDesignator field (v ++ '\x7d' :: close) = none := by
      intro u v huv hd
      by_contra hsome
      obtain ⟨x, hx⟩ := Option.ne_none_iff_exists'.1 hsome
      obtain ⟨r, hr, -⟩ := (afterDesignator_eq_some_iff hfield).1 hx
      obtain ⟨tail, ⟨inner, outer, rfl, hinner, houter⟩, -⟩ :=
        (designates_before hfield rfl (by decide +kernel) (by decide)).1 hr
      exact h
        { before := u, inner, outer, tail, close
          rest_eq := by rw [hbody, huv]; simp
          closes := hclose, inner_blank := hinner, outer_blank := houter
          outside := by rwa [Int.zero_add] at hd }
    have hfound := findDesignator_append (r := '\x7d' :: close) hnone 0
    rw [Nat.add_zero, findDesignator] at hfound
    rw [valueSpan?, valueExtent?, hclose, Option.bind_eq_bind, Option.bind_some, hlen, hbody, hfound]
    rfl

theorem valueSpan?_eq_none_iff (hfield : IsWord field)
    (ho : o ∈ (Place.start (mask t)).occurrences (instanceShape type)) :
    valueSpan? field t o = none ↔ (FieldReading field o → False) := by
  refine ⟨fun hnone a => ?_, valueSpan?_eq_none hfield⟩
  obtain ⟨b, hb⟩ := a.exists_first
  rw [valueSpan?_eq hfield ho hb] at hnone
  cases hnone

theorem before_eq_of_span (hfield : IsWord field)
    (ho : o ∈ (Place.start (mask t)).occurrences (instanceShape type)) {a b : FieldReading field o}
    (h : a.span t = b.span t) : a.before.length = b.before.length := by
  have hbound (c : FieldReading field o) : (skipBlanks c.tail).length + (c.close.length + 1) ≤ t.length := by
    have hskip : (skipBlanks c.tail).length ≤ c.tail.length := List.length_dropWhile_le isBlank c.tail
    have hrest := (instanceShape_suffix (Place.shape_of_mem ho)).length_le
    have htext := Place.length_text o.place
    rw [Place.text_of_mem ho, Place.text_start, length_mask] at htext
    rw [c.rest_eq] at hrest
    simp only [List.length_append, List.length_cons] at hrest
    omega
  have hstart : a.start t = b.start t := congrArg Span.start h
  have hclose := congrArg List.length (a.close_eq b)
  have ha := hbound a
  have hb := hbound b
  rw [start, start] at hstart
  rcases Nat.lt_trichotomy a.before.length b.before.length with hlt | heq | hlt
  · have := length_tail_lt hfield hlt
    omega
  · exact heq
  · have := length_tail_lt hfield hlt
    omega

theorem isDesignator_of_span (hfield : IsWord field)
    (ho : o ∈ (Place.start (mask t)).occurrences (instanceShape type)) {a b : FieldReading field o}
    (h : a.span t = b.span t) : a.IsDesignator t ↔ b.IsDesignator t :=
  isDesignator_congr hfield (before_eq_of_span hfield ho h)

end FieldReading

theorem contributed_by_designator_iff {type field t : Text} (wanted : Option Text) (hfield : IsWord field) :
    findInitializers type field t wanted =
        (((Place.start (mask t)).occurrences (instanceShape type)).filter
          fun o => wanted.all (· == o.value)).filterMap (valueSpan? field t) ∧
      ∀ o ∈ (Place.start (mask t)).occurrences (instanceShape type),
        (valueSpan? field t o = none ↔ (FieldReading field o → False)) ∧
        ∀ s, valueSpan? field t o = some s →
          (∃ a : FieldReading field o, a.IsFirst ∧ a.span t = s) ∧
          ((∃ a : FieldReading field o, a.IsDesignator t ∧ a.span t = s) ↔
            ∀ a : FieldReading field o, ¬ a.IsDesignator t →
              ∃ b : FieldReading field o, b.IsDesignator t ∧ b.before.length < a.before.length) := by
  refine ⟨findInitializers_eq type field t wanted, fun o ho => ⟨FieldReading.valueSpan?_eq_none_iff hfield ho, ?_⟩⟩
  intro s hs
  obtain ⟨first, hfirst⟩ : ∃ a : FieldReading field o, a.IsFirst := by
    by_contra hnone
    rw [FieldReading.valueSpan?_eq_none hfield fun a => hnone a.exists_first] at hs
    cases hs
  have hspan : first.span t = s := by
    rw [FieldReading.valueSpan?_eq hfield ho hfirst] at hs
    exact Option.some.inj hs
  refine ⟨⟨first, hfirst, hspan⟩, ?_, ?_⟩
  · rintro ⟨a, ha, hvalue⟩ b hb
    have hlen := FieldReading.before_eq_of_span hfield ho (hvalue.trans hspan.symm)
    refine ⟨a, ha, Nat.lt_of_le_of_ne (hlen ▸ hfirst b) fun heq => ?_⟩
    exact hb ((FieldReading.isDesignator_congr hfield heq).1 ha)
  · intro hall
    refine ⟨first, ?_, hspan⟩
    by_contra hnot
    obtain ⟨b, -, hlt⟩ := hall first hnot
    have hle := hfirst b
    omega

def comparedText : Text :=
  "struct T v __x = \x7b /* , */ .a = \x7b.f = 2\x7d,".toList ++
    " /* \"s\" */ .f\n= g(1, \"x\"), .b = cfg.f == 1 \x7d;".toList

def comparedInstance : Occurrence Text :=
  ⟨Place.start (mask comparedText), ['v'], (mask comparedText).drop 18⟩

def comparedReading : FieldReading ['f'] comparedInstance where
  before := (mask comparedText).extract 18 52
  inner := []
  outer := ['\n']
  tail := (mask comparedText).extract 56 84
  close := [';']
  rest_eq := by decide +kernel
  closes := by decide +kernel
  inner_blank := allBlank_nil
  outer_blank := by decide +kernel
  outside := by decide +kernel

theorem designator_contributes_before_comparison :
    findInitializers ['T'] ['f'] comparedText none = [comparedReading.span comparedText] ∧
      (comparedReading.span comparedText).text = "g(1, \"x\")".toList ∧
      comparedReading.IsDesignator comparedText ∧
      ∀ a : FieldReading ['f'] comparedInstance, ¬ a.IsDesignator comparedText →
        ∃ b : FieldReading ['f'] comparedInstance, b.IsDesignator comparedText ∧
          b.before.length < a.before.length := by
  have hinstances : (Place.start (mask comparedText)).occurrences (instanceShape ['T']) =
      [comparedInstance] := by
    decide +kernel
  have hvalue : valueSpan? ['f'] comparedText comparedInstance =
      some (comparedReading.span comparedText) := by
    decide +kernel
  have hdesignator : comparedReading.IsDesignator comparedText := by decide +kernel
  have hfield : IsWord ['f'] := by decide +kernel
  obtain ⟨hfound, hall⟩ : findInitializers ['T'] ['f'] comparedText none = _ ∧ _ :=
    contributed_by_designator_iff none hfield
  rw [hinstances] at hfound hall
  obtain ⟨-, hspan⟩ := hall comparedInstance (List.mem_cons_self ..)
  refine ⟨hfound.trans ?_, by decide +kernel, hdesignator, (hspan _ hvalue).2.1 ⟨_, hdesignator, rfl⟩⟩
  simp [hvalue]

def accessText : Text :=
  "struct T v = \x7b .a = cfg.f == 1 \x7d;".toList

def accessInstance : Occurrence Text :=
  ⟨Place.start (mask accessText), ['v'], (mask accessText).drop 14⟩

def accessReading : FieldReading ['f'] accessInstance where
  before := (mask accessText).extract 14 23
  inner := []
  outer := [' ']
  tail := (mask accessText).extract 27 31
  close := [';']
  rest_eq := by decide +kernel
  closes := by decide +kernel
  inner_blank := allBlank_nil
  outer_blank := allBlank_space
  outside := by decide +kernel

def subfieldText : Text :=
  "struct T v = \x7b .g.f = 1 \x7d;".toList

def subfieldInstance : Occurrence Text :=
  ⟨Place.start (mask subfieldText), ['v'], (mask subfieldText).drop 14⟩

def subfieldReading : FieldReading ['f'] subfieldInstance where
  before := (mask subfieldText).extract 14 17
  inner := []
  outer := [' ']
  tail := (mask subfieldText).extract 21 24
  close := [';']
  rest_eq := by decide +kernel
  closes := by decide +kernel
  inner_blank := allBlank_nil
  outer_blank := allBlank_space
  outside := by decide +kernel

theorem access_and_nested_contribute :
    findInitializers ['T'] ['f'] accessText none = [⟨"= 1".toList, 27, 30, 1⟩] ∧
      (∀ a : FieldReading ['f'] accessInstance,
        a.span accessText = ⟨"= 1".toList, 27, 30, 1⟩ → ¬ a.IsDesignator accessText) ∧
      findInitializers ['T'] ['f'] subfieldText none = [⟨['1'], 22, 23, 1⟩] ∧
      ∀ a : FieldReading ['f'] subfieldInstance,
        a.span subfieldText = ⟨['1'], 22, 23, 1⟩ → ¬ a.IsDesignator subfieldText := by
  have hfield : IsWord ['f'] := by decide +kernel
  have haccess : accessInstance ∈ (Place.start (mask accessText)).occurrences (instanceShape ['T']) := by
    decide +kernel
  have hnested : subfieldInstance ∈ (Place.start (mask subfieldText)).occurrences (instanceShape ['T']) := by
    decide +kernel
  have haccess' : accessReading.span accessText = ⟨"= 1".toList, 27, 30, 1⟩ := by decide +kernel
  have hnested' : subfieldReading.span subfieldText = ⟨['1'], 22, 23, 1⟩ := by decide +kernel
  refine ⟨by decide +kernel, fun a ha => ?_, by decide +kernel, fun a ha => ?_⟩
  · rw [FieldReading.isDesignator_of_span hfield haccess (ha.trans haccess'.symm)]
    decide +kernel
  · rw [FieldReading.isDesignator_of_span hfield hnested (ha.trans hnested'.symm)]
    decide +kernel

end HeaderProbe
