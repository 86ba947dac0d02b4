import HeaderProbe.Proofs.Mask.Cut

namespace HeaderProbe

open Text

def opensHidden (c : Char) : Bool :=
  c == '/' || c == '"' || c == '\''

theorem hiddenLength_of_not_opensHidden {c : Char} (hc : opensHidden c = false) (r : Text) :
    hiddenLength (c :: r) = none := by
  rcases hiddenLength_cases (c :: r) with ⟨s, hs⟩ | ⟨s, hs⟩ | ⟨q, s, hq, hs⟩ | hnone
  · cases hs
    cases hc
  · cases hs
    cases hc
  · cases hs
    rcases hq with rfl | rfl <;> cases hc
  · exact hnone

theorem mask_append_of_code {a : Text} (ha : ∀ c ∈ a, opensHidden c = false) (s : Text) :
    mask (a ++ s) = a ++ mask s := by
  induction a with
  | nil => rfl
  | cons c a ih =>
    obtain ⟨hc, ha⟩ := List.forall_mem_cons.1 ha
    have hrest : maskFrom 0 (a ++ s) = a ++ maskFrom 0 s := ih ha
    rw [List.cons_append, mask, maskFrom_plain (hiddenLength_of_not_opensHidden hc _), hrest]
    rfl

theorem maskFrom_length_append (a s : Text) :
    maskFrom a.length (a ++ s) = a.map blankOut ++ mask s := by
  induction a with
  | nil => rfl
  | cons c a ih => simp only [List.length_cons, List.cons_append, maskFrom, List.map_cons, ih]

theorem mask_append_of_hidden {a s : Text} (h : hiddenLength (a ++ s) = some a.length) :
    mask (a ++ s) = a.map blankOut ++ mask s := by
  cases a with
  | nil => rfl
  | cons c a =>
    rw [List.cons_append] at h
    rw [List.cons_append, mask, maskFrom_hidden h, maskFrom_length_append]
    rfl

theorem getElem?_maskFrom_of_append {n k : Nat} {a b : Text} {c : Char}
    (h : (maskFrom n (a ++ b))[k]? = some c) (hc : isBlank c = false) (hk : k < a.length) :
    (maskFrom n a)[k]? = some c := by
  induction a generalizing n k with
  | nil => cases hk
  | cons d a ih =>
    have hstep {m : Nat} (hm : (blankOut d :: maskFrom m (a ++ b))[k]? = some c) :
        ∃ j, k = j + 1 ∧ j < a.length ∧ (maskFrom m (a ++ b))[j]? = some c := by
      cases k with
      | zero =>
        obtain rfl := Option.some.inj hm
        rw [isBlank_blankOut] at hc
        cases hc
      | succ j => exact ⟨j, rfl, Nat.lt_of_succ_lt_succ hk, hm⟩
    cases n with
    | succ n =>
      obtain ⟨j, rfl, hj, hrest⟩ := hstep h
      exact ih hrest hj
    | zero =>
      rw [List.cons_append] at h
      rcases hiddenLength_eq_none_or (d :: (a ++ b)) with hnone | ⟨m, hsome⟩
      · have hplain : hiddenLength (d :: a) = none := by
          by_contra hne
          exact hiddenLength_append_ne_none b hne hnone
        rw [maskFrom_plain hnone] at h
        rw [maskFrom_plain hplain]
        cases k with
        | zero => exact h
        | succ j => exact ih h (Nat.lt_of_succ_lt_succ hk)
      · rw [maskFrom_hidden hsome] at h
        obtain ⟨j, rfl, hj, hrest⟩ := hstep h
        -- The comment or literal ends before the visible character, so the beginning holds all of it.
        have hm := (maskFrom_take hrest hc).1
        have hcut : hiddenLength (d :: a) = some (m + 1) :=
          hiddenLength_of_append (b := b) hsome (by rw [List.length_cons]; omega)
        rw [maskFrom_hidden hcut]
        exact ih hrest hj

theorem mask_split {a b : Text} {c : Char} (hblank : isBlank c = false) (hopens : opensHidden c = false)
    (h : (mask (a ++ c :: b))[a.length]? = some c) : mask (a ++ c :: b) = mask (a ++ [c]) ++ mask b := by
  have hcut : (a ++ c :: b).take (a.length + 1) = a ++ [c] := by
    simp [List.take_append, List.take_of_length_le]
  have hfirst := mask_take h hblank
  have hrest := mask_drop h hblank
  rw [hcut] at hfirst
  rw [List.drop_left, mask, mask, maskFrom_plain (hiddenLength_of_not_opensHidden hopens b)] at hrest
  rw [hfirst]
  conv_lhs => rw [← List.take_append_drop (a.length + 1) (mask (a ++ c :: b))]
  rw [← List.drop_drop, mask, hrest]
  rfl

theorem head?_mask_eq_some_iff {c : Char} (hblank : isBlank c = false) (hopens : opensHidden c = false)
    {t : Text} : (mask t).head? = some c ↔ t.head? = some c := by
  cases t with
  | nil => rfl
  | cons d r =>
    rcases hiddenLength_eq_none_or (d :: r) with h | ⟨n, h⟩
    · rw [mask, maskFrom_plain h]
      rfl
    · rw [mask, maskFrom_hidden h, List.head?_cons, List.head?_cons, Option.some.injEq, Option.some.injEq]
      constructor
      · rintro rfl
        rw [isBlank_blankOut] at hblank
        cases hblank
      · rintro rfl
        rw [hiddenLength_of_not_opensHidden hopens] at h
        cases h

end HeaderProbe
