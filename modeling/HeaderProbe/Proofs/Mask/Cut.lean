import HeaderProbe.Source.Mask
import Mathlib.Data.List.Basic

namespace HeaderProbe

open Text

theorem literalLength_pos {q : Char} {e : Bool} {s : Text} {n : Nat}
    (h : literalLength q e s = some n) : 0 < n := by
  fun_induction literalLength q e s <;> simp_all <;> omega

theorem commentLength_pos {star : Bool} {s : Text} {n : Nat}
    (h : commentLength star s = some n) : 0 < n := by
  fun_induction commentLength star s <;> simp_all <;> omega

theorem literalLength_eq_some_iff {q : Char} {e : Bool} {a : Text} (b : Text) {n : Nat} :
    literalLength q e a = some n ↔ literalLength q e (a ++ b) = some n ∧ n ≤ a.length := by
  fun_induction literalLength q e a generalizing n with
  | case1 e =>
    constructor
    · intro h
      cases h
    · rintro ⟨h, hn⟩
      have := literalLength_pos h
      simp only [List.length_nil] at hn
      omega
  | case2 c r ih => simp [literalLength, ih]; grind
  | case3 r ih => simp [literalLength, ih]; grind
  | case4 r hq => simp_all [literalLength]
  | case5 => simp_all [literalLength]
  | case6 c r h1 h2 h3 ih => simp [literalLength, h1, h2, h3, ih]; grind

theorem commentLength_eq_some_iff {star : Bool} {a : Text} (b : Text) {n : Nat} :
    commentLength star a = some n ↔ commentLength star (a ++ b) = some n ∧ n ≤ a.length := by
  fun_induction commentLength star a generalizing n with
  | case1 star =>
    constructor
    · intro h
      cases h
    · rintro ⟨h, hn⟩
      have := commentLength_pos h
      simp only [List.length_nil] at hn
      omega
  | case2 star c r h => simp [commentLength, h]; grind
  | case3 star c r h ih => simp [commentLength, h, ih]; grind

theorem hiddenLength_cases (s : Text) :
    (∃ r, s = '/' :: '*' :: r) ∨ (∃ r, s = '/' :: '/' :: r) ∨
      (∃ q r, (q = '"' ∨ q = '\'') ∧ s = q :: r) ∨ hiddenLength s = none := by
  fun_cases hiddenLength s with
  | case1 r => exact .inl ⟨r, rfl⟩
  | case2 r => exact .inr (.inl ⟨r, rfl⟩)
  | case3 r => exact .inr (.inr (.inl ⟨_, r, .inl rfl, rfl⟩))
  | case4 r => exact .inr (.inr (.inl ⟨_, r, .inr rfl, rfl⟩))
  | case5 => exact .inr (.inr (.inr rfl))

theorem hiddenLength_block (r : Text) :
    hiddenLength ('/' :: '*' :: r) = (commentLength false r).map (· + 2) :=
  rfl

theorem hiddenLength_line (r : Text) :
    hiddenLength ('/' :: '/' :: r) = some ((r.takeWhile (· ≠ '\n')).length + 2) :=
  rfl

theorem hiddenLength_literal {q : Char} (hq : q = '"' ∨ q = '\'') (r : Text) :
    hiddenLength (q :: r) = (literalLength q false r).map (· + 1) := by
  rcases hq with rfl | rfl <;> rfl

theorem two_le_hiddenLength {s : Text} {n : Nat} (h : hiddenLength s = some n) : 2 ≤ n := by
  rcases hiddenLength_cases s with ⟨r, rfl⟩ | ⟨r, rfl⟩ | ⟨q, r, hq, rfl⟩ | hs
  · rw [hiddenLength_block] at h
    obtain ⟨k, -, rfl⟩ := Option.map_eq_some_iff.1 h
    omega
  · rw [hiddenLength_line, Option.some.injEq] at h
    omega
  · rw [hiddenLength_literal hq] at h
    obtain ⟨k, hk, rfl⟩ := Option.map_eq_some_iff.1 h
    have := literalLength_pos hk
    omega
  · rw [hs] at h
    cases h

theorem takeWhile_of_append {p : Char → Bool} {a b : Text}
    (h : ((a ++ b).takeWhile p).length ≤ a.length) : (a ++ b).takeWhile p = a.takeWhile p := by
  rw [List.takeWhile_append] at h ⊢
  split
  · next hall =>
    rw [if_pos hall, List.length_append] at h
    have hb : b.takeWhile p = [] := List.eq_nil_of_length_eq_zero (by omega)
    have ha := (List.takeWhile_sublist (l := a) p).eq_of_length hall
    rw [hb, ha, List.append_nil]
  · rfl

theorem exists_cons_cons {s : Text} (h : 2 ≤ s.length) : ∃ c d r, s = c :: d :: r :=
  match s, h with
  | c :: d :: r, _ => ⟨c, d, r, rfl⟩

theorem hiddenLength_of_append {a b : Text} {n : Nat} (h : hiddenLength (a ++ b) = some n)
    (hn : n ≤ a.length) : hiddenLength a = some n := by
  obtain ⟨c, d, r, rfl⟩ := exists_cons_cons (Nat.le_trans (two_le_hiddenLength h) hn)
  simp only [List.cons_append, List.length_cons] at h hn ⊢
  rcases hiddenLength_cases (c :: d :: (r ++ b)) with ⟨r', hr⟩ | ⟨r', hr⟩ | ⟨q, r', hq, hr⟩ | hs
  · injection hr with hc hr
    injection hr with hd hr
    subst hc hd hr
    rw [hiddenLength_block] at h ⊢
    obtain ⟨k, hk, rfl⟩ := Option.map_eq_some_iff.1 h
    rw [(commentLength_eq_some_iff b).2 ⟨hk, by omega⟩, Option.map_some]
  · injection hr with hc hr
    injection hr with hd hr
    subst hc hd hr
    rw [hiddenLength_line, Option.some.injEq] at h ⊢
    rw [← takeWhile_of_append (b := b) (by omega), h]
  · injection hr with hc hr
    subst hc hr
    rw [hiddenLength_literal hq] at h ⊢
    obtain ⟨k, hk, rfl⟩ := Option.map_eq_some_iff.1 h
    rw [(literalLength_eq_some_iff b).2 ⟨hk, by simp only [List.length_cons]; omega⟩,
      Option.map_some]
  · rw [hs] at h
    cases h

theorem hiddenLength_append_ne_none {a : Text} (b : Text) (h : hiddenLength a ≠ none) :
    hiddenLength (a ++ b) ≠ none := by
  obtain ⟨n, hn⟩ := Option.ne_none_iff_exists'.1 h
  rcases hiddenLength_cases a with ⟨r, rfl⟩ | ⟨r, rfl⟩ | ⟨q, r, hq, rfl⟩ | hs
  · rw [hiddenLength_block] at hn
    obtain ⟨k, hk, rfl⟩ := Option.map_eq_some_iff.1 hn
    simp only [List.cons_append, hiddenLength_block, ((commentLength_eq_some_iff b).1 hk).1]
    simp
  · simp only [List.cons_append, hiddenLength_line]
    simp
  · rw [hiddenLength_literal hq] at hn
    obtain ⟨k, hk, rfl⟩ := Option.map_eq_some_iff.1 hn
    simp only [List.cons_append, hiddenLength_literal hq, ((literalLength_eq_some_iff b).1 hk).1]
    simp
  · exact absurd hs h

theorem maskFrom_hidden {c : Char} {r : Text} {n : Nat}
    (h : hiddenLength (c :: r) = some (n + 1)) :
    maskFrom 0 (c :: r) = blankOut c :: maskFrom n r := by
  simp only [maskFrom, h]

theorem maskFrom_plain {c : Char} {r : Text} (h : hiddenLength (c :: r) = none) :
    maskFrom 0 (c :: r) = c :: maskFrom 0 r := by
  simp only [maskFrom, h]

theorem hiddenLength_eq_none_or (s : Text) :
    hiddenLength s = none ∨ ∃ n, hiddenLength s = some (n + 1) := by
  cases h : hiddenLength s with
  | none => exact .inl rfl
  | some n =>
    have := two_le_hiddenLength h
    exact .inr ⟨n - 1, by rw [Nat.sub_add_cancel (by omega)]⟩

theorem isBlank_blankOut (c : Char) : isBlank (blankOut c) = true := by
  unfold blankOut
  split
  · next h => rw [h]; decide
  · decide

theorem drop_maskFrom (k n : Nat) (t : Text) :
    ∃ m, (maskFrom n t).drop k = maskFrom m (t.drop k) := by
  induction k generalizing n t with
  | zero => exact ⟨n, rfl⟩
  | succ k ih =>
    cases t with
    | nil => exact ⟨n, by simp [maskFrom]⟩
    | cons c r =>
      cases n with
      | succ n => exact ih n r
      | zero =>
        rcases hiddenLength_eq_none_or (c :: r) with h | ⟨m, h⟩
        · rw [maskFrom_plain h]
          exact ih 0 r
        · rw [maskFrom_hidden h]
          exact ih m r

theorem mask_drop {t : Text} {k : Nat} {c : Char} (h : (mask t)[k]? = some c)
    (hc : isBlank c = false) : (mask t).drop k = mask (t.drop k) := by
  obtain ⟨m, hm⟩ := drop_maskFrom k 0 t
  cases m with
  | zero => exact hm
  | succ m =>
    have hhead : (maskFrom (m + 1) (t.drop k)).head? = some c := by
      rw [← hm, List.head?_drop]
      exact h
    cases ht : t.drop k with
    | nil => simp [ht, maskFrom] at hhead
    | cons d r =>
      rw [ht] at hhead
      have hd : blankOut d = c := by simpa [maskFrom] using hhead
      rw [← hd, isBlank_blankOut] at hc
      cases hc

theorem maskFrom_take {n k : Nat} {t : Text} {c : Char} (h : (maskFrom n t)[k]? = some c)
    (hc : isBlank c = false) :
    n ≤ k ∧ maskFrom n (t.take (k + 1)) = (maskFrom n t).take (k + 1) := by
  fun_induction maskFrom n t generalizing k with
  | case1 => simp at h
  | case2 n d r ih =>
    cases k with
    | zero =>
      have hd : blankOut d = c := by simpa using h
      rw [← hd, isBlank_blankOut] at hc
      cases hc
    | succ k =>
      obtain ⟨hn, ht⟩ := ih (by simpa using h)
      exact ⟨by omega, by simp [maskFrom, ht]⟩
  | case3 d r n hd ih =>
    cases k with
    | zero =>
      have hb : blankOut d = c := by simpa using h
      rw [← hb, isBlank_blankOut] at hc
      cases hc
    | succ k =>
      obtain ⟨hn, ht⟩ := ih (by simpa using h)
      have hlen : (maskFrom n r)[k]? = some c := by simpa using h
      have hk : k < r.length := by
        have := (List.getElem?_eq_some_iff.1 hlen).1
        simpa using this
      have hcut : hiddenLength ((d :: r).take (k + 2)) = some (n + 1) := by
        apply hiddenLength_of_append (b := (d :: r).drop (k + 2))
        · rw [List.take_append_drop, hd]
        · simp only [List.length_take, List.length_cons]
          omega
      refine ⟨by omega, ?_⟩
      rw [List.take_succ_cons] at hcut ⊢
      rw [maskFrom_hidden hcut, ht, List.take_succ_cons]
  | case4 d r hd ih =>
    have hnone : hiddenLength (d :: r) = none := by
      rcases hiddenLength_eq_none_or (d :: r) with h | ⟨m, h⟩
      · exact h
      · exact absurd h (hd m)
    have hcut : hiddenLength ((d :: r).take (k + 1)) = none := by
      by_contra hsome
      have := hiddenLength_append_ne_none ((d :: r).drop (k + 1)) hsome
      rw [List.take_append_drop] at this
      exact this hnone
    refine ⟨by omega, ?_⟩
    rw [List.take_succ_cons] at hcut ⊢
    rw [maskFrom_plain hcut, List.take_succ_cons]
    cases k with
    | zero => simp [maskFrom]
    | succ k => rw [(ih (by simpa using h)).2]

theorem mask_take {t : Text} {k : Nat} {c : Char} (h : (mask t)[k]? = some c)
    (hc : isBlank c = false) : mask (t.take (k + 1)) = (mask t).take (k + 1) :=
  (maskFrom_take h hc).2

theorem mask_drop_take {t : Text} {k n : Nat} {c d : Char} (hc : (mask t)[k]? = some c)
    (hcv : isBlank c = false) (hd : (mask t)[k + n]? = some d) (hdv : isBlank d = false) :
    mask ((t.drop k).take (n + 1)) = ((mask t).drop k).take (n + 1) := by
  have hdrop : (mask t).drop k = mask (t.drop k) := mask_drop hc hcv
  have hlast : (mask (t.drop k))[n]? = some d := by
    rw [← hdrop, List.getElem?_drop]
    exact hd
  rw [hdrop]
  exact mask_take hlast hdv

theorem mask_between_visible (t : Text) {start stop : Nat} (hstart : start < stop)
    (hstop : stop ≤ t.length) {c d : Char} (hc : (mask t)[start]? = some c)
    (hcv : isBlank c = false) (hd : (mask t)[stop - 1]? = some d) (hdv : isBlank d = false) :
    mask (t.extract start stop) = (mask t).extract start stop := by
  obtain ⟨n, rfl⟩ : ∃ n, stop = start + n + 1 := ⟨stop - start - 1, by omega⟩
  have hwidth : start + n + 1 - start = n + 1 := by omega
  rw [List.extract_eq_take_drop, List.extract_eq_take_drop, hwidth]
  exact mask_drop_take hc hcv hd hdv

theorem mask_between_open_quote_and_slash :
    mask ("don't\n f('/*', x) /*".toList.extract 3 19) = "'t\n f(    , x) /".toList := by
  let t := "don't\n f('/*', x) /*".toList
  have hcut : mask (t.extract 3 19) = (mask t).extract 3 19 :=
    mask_between_visible t (by decide) (by decide) (c := '\'') (by decide) (by decide) (d := '/')
      (by decide) (by decide)
  rw [hcut]
  decide

end HeaderProbe
