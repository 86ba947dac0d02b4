import HeaderProbe.Proofs.Source.FieldValue

namespace HeaderProbe

open Text

theorem FoundValue.paired_body {field t : Text} {o : Occurrence Text} (f : FoundValue field t o) :
    Bracket.Paired '{' '}' f.body := by
  apply Bracket.paired_of_partner (by decide) (r := f.close)
  rw [← f.rest_eq_body, ← f.closes]
  exact (Bracket.afterClose_opening (b := .brace)).symm

section

variable {field t : Text} {o o' : Occurrence Text} (f : FoundValue field t o) (f' : FoundValue field t o')

theorem FoundValue.closing_lt {u v w : Text} (hsplit : o.rest = u ++ (v ++ w))
    (hv : Bracket.Paired '{' '}' v)
    (hfrom : f.opening + 1 + u.length ≤ f'.opening)
    (hto : f'.opening < f.opening + 1 + u.length + v.length) :
    f'.closing < f.opening + 1 + u.length + v.length := by
  have hmask : (f.head ++ '{' :: u) ++ (v ++ w) = f'.head ++ '{' :: o'.rest := by
    rw [← f'.mask_eq, f.mask_eq, hsplit]
    simp
  have hlength : (f.head ++ '{' :: u).length = f.opening + 1 + u.length := by
    simp only [opening, List.length_append, List.length_cons]
    omega
  obtain ⟨x, hx⟩ : f.head ++ '{' :: u <+: f'.head :=
    List.prefix_of_prefix_length_le ⟨_, hmask⟩ ⟨_, rfl⟩ (by rwa [hlength])
  have hopening := congrArg List.length hx
  rw [List.length_append, hlength] at hopening
  change _ = f'.opening at hopening
  rw [← hx, List.append_assoc (f.head ++ '{' :: u) x, List.append_cancel_left_eq] at hmask
  obtain ⟨y, hy, hrest⟩ : ∃ y, v = x ++ '{' :: y ∧ o'.rest = y ++ w := by
    rcases List.append_eq_append_iff.1 hmask with ⟨z, rfl, -⟩ | ⟨z, rfl, hz⟩
    · rw [List.length_append] at hopening
      omega
    · cases z with
      | nil =>
        rw [List.append_nil] at hto
        omega
      | cons c y =>
        obtain ⟨rfl, hrest⟩ := List.cons.inj hz
        exact ⟨y, rfl, hrest⟩
  have hclose : Bracket.partner '{' '}' (0 + 1) (y ++ w) = some f'.close := by
    rw [← hrest, ← f'.closes]
    exact (Bracket.afterClose_opening (b := .brace)).symm
  obtain ⟨z, hz⟩ := hv.exists_of_partner (by decide) hy hclose
  have hlengths := congrArg List.length hrest
  rw [f'.rest_eq_body, hz] at hlengths
  rw [hy, closing]
  simp only [List.length_append, List.length_cons] at hlengths ⊢
  omega

end

/-- How the value `s'` of an instance from `b'` to `e'` lies to the value `s` of one that opens before it and
extends from `b` to `e`. -/
structure Arranged (m : Text) (b e b' e' : Nat) (s s' : Span) : Prop where
  opened : b < b'
  outside : e < b' → s.stop < s'.start
  inside : b' < e → e' < e ∧ b < s'.start ∧ s'.stop < e
  after_start : s.start ≤ b' → s.start < s'.start
  after_stop : s.stop ≤ b' → s.stop < s'.start
  within : isNested [] (m.extract (b + 1) e) = true → s.start ≤ b' → b' < s.stop → s'.stop < s.stop
  before : isNested [] (m.extract (b + 1) e) = true → b' < s.start → s'.stop < s.start

def OpensInFront (x y : Occurrence Text × Span) : Prop :=
  x.1.stop < y.1.stop ∧ y.1.stop ≤ x.2.start

instance (x y : Occurrence Text × Span) : Decidable (OpensInFront x y) :=
  inferInstanceAs (Decidable (_ ∧ _))

theorem FoundValue.arranged {field t : Text} {o o' : Occurrence Text} (f : FoundValue field t o)
    (f' : FoundValue field t o') (hlt : f.opening < f'.opening) :
    Arranged (mask t) f.opening f.closing f'.opening f'.closing f.span f'.span := by
  have hvalue := f.completeValue
  have hvalue' := f'.completeValue
  have hordered := hvalue.ordered
  have hclosed := hvalue.closed
  have hopened' := hvalue'.opened
  have hclosed' := hvalue'.closed
  have hlead : f.span.start = f.opening + 1 + f.lead.length := rfl
  have hstop : f.span.stop = f.span.start + f.value.length := rfl
  -- The second instance closes in the same part of the first one's body that it opens in: the whole body, the
  -- value, or what stands before the value.
  refine ⟨hlt, fun h => ?_, fun h => ?_, fun h => ?_, fun h => ?_, fun hnested hstart hend => ?_,
    fun hnested hstart => ?_⟩
  · omega
  · have hlast := f.closing_lt f' (u := []) f.rest_eq_body f.paired_body (by simpa using Nat.succ_le_of_lt hlt)
      (by simpa [closing] using h)
    have hclosing : f.closing = f.opening + 1 + f.body.length := rfl
    rw [List.length_nil, Nat.add_zero, ← hclosing] at hlast
    omega
  · omega
  · omega
  · rw [f.extract_whole] at hnested
    have hpaired := Bracket.paired_of_isNested (f.isNested_parts hnested).2 .brace
    have hlast := f.closing_lt f' (u := f.lead) (v := f.value) (w := f.gap ++ f.after ++ '}' :: f.close)
      (by rw [f.rest_eq_body, body]; simp) hpaired (by omega) (by omega)
    omega
  · rw [f.extract_whole] at hnested
    have hpaired := Bracket.paired_of_isNested (f.isNested_parts hnested).1 .brace
    have hlast := f.closing_lt f' (u := []) (v := f.lead)
      (w := f.value ++ (f.gap ++ f.after) ++ '}' :: f.close) (by rw [f.rest_eq_body, body]; simp) hpaired
      (by simpa using Nat.succ_le_of_lt hlt) (by simpa using hlead ▸ hstart)
    rw [List.length_nil, Nat.add_zero] at hlast
    omega

theorem Arranged.not_nested {m : Text} {b e b' e' : Nat} {s : Span} (h : Arranged m b e b' e' s s)
    (hordered : s.start ≤ s.stop) : ¬ isNested [] (m.extract (b + 1) e) = true := by
  intro hnested
  rcases Nat.lt_or_ge b' s.start with hfront | hfront
  · have := h.before hnested hfront
    omega
  · have := h.after_start hfront
    omega

theorem opening_lt_of_mem {type field t : Text} {o o' : Occurrence Text} (f : FoundValue field t o)
    (f' : FoundValue field t o') (ho : o ∈ (Place.start (mask t)).occurrences (instanceShape type))
    (ho' : o' ∈ (Place.start (mask t)).occurrences (instanceShape type)) (h : o.stop ≤ o'.place.offset) :
    f.opening < f'.opening := by
  have hstop := (f.hasBody ho).stop_eq
  have hstop' := (f'.hasBody ho').stop_eq
  have hlength := (instanceShape_opening_suffix (Place.shape_of_mem ho')).length_le
  rw [Occurrence.stop, Place.reach] at hstop'
  rw [List.length_cons] at hlength
  omega

theorem exists_arranged {type field t : Text} {wanted : Option Text} (hfield : IsWord field)
    {o o' : Occurrence Text} {s s' : Span} (hx : (o, s) ∈ contributions type field t wanted)
    (hy : (o', s') ∈ contributions type field t wanted) (hlt : o.place.offset < o'.place.offset) :
    ∃ b e b' e', HasBody (mask t) o b e ∧ HasBody (mask t) o' b' e' ∧ Arranged (mask t) b e b' e' s s' := by
  obtain ⟨ho, -, hs⟩ := mem_contributions_iff.1 hx
  obtain ⟨ho', -, hs'⟩ := mem_contributions_iff.1 hy
  obtain ⟨f, rfl⟩ := exists_found_value hfield ho hs
  obtain ⟨f', rfl⟩ := exists_found_value hfield ho' hs'
  have hle := Place.stop_le_offset ho ho' hlt
  exact ⟨_, _, _, _, f.hasBody ho, f'.hasBody ho', f.arranged f' (opening_lt_of_mem f f' ho ho' hle)⟩

theorem values_arranged {type field t : Text} (wanted : Option Text) (hfield : IsWord field) :
    findInitializers type field t wanted = (contributions type field t wanted).map Prod.snd ∧
      (∀ o s o' s', (o, s) ∈ contributions type field t wanted → (o', s') ∈ contributions type field t wanted →
        o.place.offset < o'.place.offset →
          ∃ b e b' e', HasBody (mask t) o b e ∧ HasBody (mask t) o' b' e' ∧
            Arranged (mask t) b e b' e' s s') ∧
      (contributions type field t wanted).Pairwise fun x y =>
        x.1.place.offset < y.1.place.offset ∧ x.1 ≠ y.1 ∧
          (x.2.start < y.2.start ∨ OpensInFront x y ∨ OpensInFront y x) := by
  refine ⟨map_snd_contributions.symm, fun o s o' s' hx hy => exists_arranged hfield hx hy, ?_⟩
  have hoffset := pairwise_contributions field wanted
    (Place.pairwise_occurrences (instanceShape type) (Place.start (mask t)))
  refine hoffset.imp_of_mem ?_
  rintro ⟨o, s⟩ ⟨o', s'⟩ hx hy hlt
  obtain ⟨b, e, b', e', hbody, hbody', harranged⟩ := exists_arranged hfield hx hy hlt
  have hopened := harranged.opened
  refine ⟨hlt, ?_, ?_⟩
  · rintro rfl
    exact Nat.lt_irrefl _ hlt
  · rcases Nat.lt_or_ge b' s.start with hfront | hfront
    · refine .inr (.inl ⟨?_, ?_⟩)
      · change o.stop < o'.stop
        rw [hbody.stop_eq, hbody'.stop_eq]
        exact Nat.succ_lt_succ hopened
      · change o'.stop ≤ s.start
        rw [hbody'.stop_eq]
        exact hfront
    · exact .inl (harranged.after_start hfront)

def heldText : Text :=
  "struct T a = \x7b .f = (\x7b struct T b = \x7b .f = 1 \x7d; 0; \x7d) \x7d;".toList

def holdingInstance : Occurrence Text :=
  ⟨Place.start (mask heldText), ['a'], (mask heldText).drop 14⟩

def heldInstance : Occurrence Text :=
  ⟨Place.of (mask heldText) 23, ['b'], (mask heldText).drop 37⟩

theorem inner_value_within_outer :
    findInitializers ['T'] ['f'] heldText none =
        [⟨"(\x7b struct T b = \x7b .f = 1 \x7d; 0; \x7d)".toList, 20, 53, 1⟩, ⟨['1'], 43, 44, 1⟩] ∧
      Arranged (mask heldText) 13 54 36 45
        ⟨"(\x7b struct T b = \x7b .f = 1 \x7d; 0; \x7d)".toList, 20, 53, 1⟩ ⟨['1'], 43, 44, 1⟩ := by
  have hfield : IsWord ['f'] := by decide +kernel
  have hfound : contributions ['T'] ['f'] heldText none =
      [(holdingInstance, ⟨"(\x7b struct T b = \x7b .f = 1 \x7d; 0; \x7d)".toList, 20, 53, 1⟩),
        (heldInstance, ⟨['1'], 43, 44, 1⟩)] := by
    decide +kernel
  obtain ⟨hlist, hall, -⟩ : findInitializers ['T'] ['f'] heldText none = _ ∧ _ :=
    values_arranged none hfield
  rw [hfound] at hlist hall
  obtain ⟨b, e, b', e', hbody, hbody', harranged⟩ := hall holdingInstance _ heldInstance _
    (List.mem_cons_self ..) (List.mem_cons_of_mem _ (List.mem_cons_self ..)) (by decide +kernel)
  have houter : HasBody (mask heldText) holdingInstance 13 54 := by decide +kernel
  have hinner : HasBody (mask heldText) heldInstance 36 45 := by decide +kernel
  obtain ⟨rfl, rfl⟩ := hbody.unique houter
  obtain ⟨rfl, rfl⟩ := hbody'.unique hinner
  exact ⟨hlist, harranged⟩

def precedingText : Text :=
  "struct T a = \x7b .g = (\x7b struct T b = \x7b .f = 1 \x7d; 0; \x7d), .f = 2 \x7d;".toList

def crossedText : Text :=
  "struct T a = \x7b .f = struct T b = \x7b .f = ) , \x7d \x7d;".toList

def crossedBeforeText : Text :=
  "struct T a = \x7b struct T b = \x7b ) .f = 1 ( .f = 2 \x7d \x7d;".toList

theorem values_unordered_and_overlapping :
    findInitializers ['T'] ['f'] precedingText none = [⟨['2'], 60, 61, 1⟩, ⟨['1'], 43, 44, 1⟩] ∧
      ¬ (findInitializers ['T'] ['f'] precedingText none).Pairwise (fun s s' => s.start < s'.start) ∧
      ∀ t ∈ [heldText, crossedText, crossedBeforeText],
        ¬ (findInitializers ['T'] ['f'] t none).Pairwise fun s s' => s.stop ≤ s'.start ∨ s'.stop ≤ s.start := by
  decide +kernel

end HeaderProbe
