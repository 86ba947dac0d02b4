import HeaderProbe.Proofs.Mask.Join
import HeaderProbe.Proofs.Text.Blank

namespace HeaderProbe

open Text

theorem blankOut_eq_newline_iff {c : Char} : blankOut c = '\n' ↔ c = '\n' := by
  unfold blankOut
  split
  · rfl
  · next h => exact iff_of_false (by decide) h

theorem blankOut_cases (c : Char) : blankOut c = c ∨ blankOut c = ' ' := by
  unfold blankOut
  split
  · exact .inl rfl
  · exact .inr rfl

theorem getElem?_maskFrom (n : Nat) (t : Text) (i : Nat) :
    (maskFrom n t)[i]? = t[i]? ∨ (maskFrom n t)[i]? = t[i]?.map blankOut := by
  fun_induction maskFrom n t generalizing i with
  | case1 => exact .inl rfl
  | case2 n c r ih =>
    cases i with
    | zero => exact .inr rfl
    | succ i => exact ih i
  | case3 c r n hc ih =>
    cases i with
    | zero => exact .inr rfl
    | succ i => exact ih i
  | case4 c r hc ih =>
    cases i with
    | zero => exact .inl rfl
    | succ i => exact ih i

theorem getElem?_mask_cases (t : Text) (i : Nat) : (mask t)[i]? = t[i]? ∨ (mask t)[i]? = some ' ' := by
  rcases getElem?_maskFrom 0 t i with h | h
  · exact .inl h
  · cases ht : t[i]? with
    | none =>
      rw [ht] at h
      exact .inl h
    | some c =>
      rw [ht] at h
      rcases blankOut_cases c with hc | hc
      · exact .inl (by rw [mask, h, Option.map_some, hc])
      · exact .inr (by rw [mask, h, Option.map_some, hc])

theorem getElem?_maskFrom_eq_newline_iff {n : Nat} {t : Text} {i : Nat} :
    (maskFrom n t)[i]? = some '\n' ↔ t[i]? = some '\n' := by
  rcases getElem?_maskFrom n t i with h | h
  · rw [h]
  · rw [h, Option.map_eq_some_iff]
    constructor
    · rintro ⟨c, hc, hbreak⟩
      rw [hc, blankOut_eq_newline_iff.1 hbreak]
    · exact fun hc => ⟨'\n', hc, rfl⟩

theorem blankOut_beq_newline (c : Char) : (blankOut c == '\n') = (c == '\n') :=
  Bool.eq_iff_iff.2 (by rw [beq_iff_eq, beq_iff_eq, blankOut_eq_newline_iff])

theorem map_newline_maskFrom (n : Nat) (t : Text) :
    (maskFrom n t).map (· == '\n') = t.map (· == '\n') := by
  fun_induction maskFrom n t with
  | case1 => rfl
  | case2 n c r ih => rw [List.map_cons, List.map_cons, blankOut_beq_newline, ih]
  | case3 c r n hc ih => rw [List.map_cons, List.map_cons, blankOut_beq_newline, ih]
  | case4 c r hc ih => rw [List.map_cons, List.map_cons, ih]

theorem opensHidden_of_isBlank {c : Char} (hc : isBlank c = true) : opensHidden c = false := by
  by_contra h
  simp only [opensHidden, Bool.not_eq_false, Bool.or_eq_true, beq_iff_eq] at h
  rcases h with (rfl | rfl) | rfl <;> cases hc

theorem head?_of_mask {c : Char} (hc : isBlank c = false) {t : Text} (h : (mask t).head? = some c) :
    t.head? = some c := by
  rw [List.head?_eq_getElem?] at h ⊢
  rcases getElem?_mask_cases t 0 with ht | ht
  · rw [← ht, h]
  · rw [h, Option.some.injEq] at ht
    subst ht
    cases hc

theorem hiddenLength_le {s : Text} {n : Nat} (h : hiddenLength s = some n) : n ≤ s.length := by
  rcases hiddenLength_cases s with ⟨r, rfl⟩ | ⟨r, rfl⟩ | ⟨q, r, hq, rfl⟩ | hnone
  · rw [hiddenLength_block] at h
    obtain ⟨k, hk, rfl⟩ := Option.map_eq_some_iff.1 h
    have := ((commentLength_eq_some_iff []).1 hk).2
    simp only [List.length_cons]
    omega
  · rw [hiddenLength_line, Option.some.injEq] at h
    have := (List.takeWhile_sublist (l := r) (· ≠ '\n')).length_le
    simp only [List.length_cons]
    omega
  · rw [hiddenLength_literal hq] at h
    obtain ⟨k, hk, rfl⟩ := Option.map_eq_some_iff.1 h
    have := ((literalLength_eq_some_iff []).1 hk).2
    simp only [List.length_cons]
    omega
  · rw [hnone] at h
    cases h

theorem mask_induction {P : Text → Prop} (nil : P [])
    (visible : ∀ c r, hiddenLength (c :: r) = none → P r → P (c :: r))
    (hidden : ∀ a s, hiddenLength (a ++ s) = some a.length → P s → P (a ++ s)) (t : Text) : P t := by
  induction hn : t.length using Nat.strongRecOn generalizing t with
  | ind n ih =>
    subst hn
    cases t with
    | nil => exact nil
    | cons c r =>
      rcases hiddenLength_eq_none_or (c :: r) with h | ⟨k, h⟩
      · exact visible c r h (ih r.length (Nat.lt_succ_self _) r rfl)
      · have hle := hiddenLength_le h
        have hsplit := List.take_append_drop (k + 1) (c :: r)
        have hlength : ((c :: r).take (k + 1)).length = k + 1 := List.length_take_of_le hle
        have hrest := ih ((c :: r).drop (k + 1)).length (by
          rw [List.length_drop]
          omega) _ rfl
        rw [← hsplit]
        exact hidden _ _ (by rw [hsplit, hlength, h]) hrest

theorem mask_cons_of_visible {c : Char} {r : Text} (h : hiddenLength (c :: r) = none) :
    mask (c :: r) = c :: mask r :=
  maskFrom_plain h

theorem blankOut_ne {d : Char} (hd : isBlank d = false) (c : Char) : blankOut c ≠ d := by
  rintro rfl
  rw [isBlank_blankOut] at hd
  cases hd

theorem commentLength_cons_eq_none_iff {star : Bool} {c : Char} {r : Text} :
    commentLength star (c :: r) = none ↔
      ¬ (star = true ∧ c = '/') ∧ commentLength (c == '*') r = none := by
  rw [commentLength]
  split
  · next h =>
    have hcloses : star = true ∧ c = '/' := by simpa using h
    exact iff_of_false (Option.some_ne_none 1) fun hopen => hopen.1 hcloses
  · next h =>
    rw [Option.map_eq_none_iff]
    exact (and_iff_right (by simpa using h)).symm

theorem commentLength_blankOut_cons {star : Bool} {c : Char} {r : Text}
    (h : commentLength false r = none) : commentLength star (blankOut c :: r) = none := by
  have hstar : (blankOut c == '*') = false := beq_false_of_ne (blankOut_ne (by decide) c)
  rw [commentLength_cons_eq_none_iff, hstar]
  exact ⟨fun hslash => blankOut_ne (by decide) c hslash.2, h⟩

theorem commentLength_maskFrom {star seen : Bool} (hseen : seen = true → star = true) {n : Nat} {t : Text}
    (h : commentLength star t = none) : commentLength seen (maskFrom n t) = none := by
  fun_induction maskFrom n t generalizing star seen with
  | case1 => rfl
  | case2 n c r ih =>
    exact commentLength_blankOut_cons (ih (absurd · Bool.false_ne_true) (commentLength_cons_eq_none_iff.1 h).2)
  | case3 c r n hc ih =>
    exact commentLength_blankOut_cons (ih (absurd · Bool.false_ne_true) (commentLength_cons_eq_none_iff.1 h).2)
  | case4 c r hc ih =>
    obtain ⟨hopen, hrest⟩ := commentLength_cons_eq_none_iff.1 h
    rw [commentLength_cons_eq_none_iff]
    exact ⟨fun hslash => hopen ⟨hseen hslash.1, hslash.2⟩, ih id hrest⟩

theorem literalLength_of_allBlank {q : Char} (hq : isBlank q = false) {e : Bool} {c : Char} {s : Text}
    (hc : isBlank c = true) (h : literalLength q false s = none) : literalLength q e (c :: s) = none := by
  cases e with
  | true => rw [literalLength, h, Option.map_none]
  | false =>
    have hescape : c ≠ '\\' := by
      rintro rfl
      cases hc
    have hquote : c ≠ q := by
      rintro rfl
      rw [hq] at hc
      cases hc
    rw [literalLength, if_neg hescape, if_neg hquote, h]
    split <;> rfl

theorem literalLength_blanks_append {q : Char} (hq : isBlank q = false) {e : Bool} {w s : Text}
    (hw : AllBlank w) (hne : w ≠ []) (h : literalLength q false s = none) :
    literalLength q e (w ++ s) = none := by
  induction w generalizing e with
  | nil => exact absurd rfl hne
  | cons c w ih =>
    obtain ⟨hc, hw⟩ := List.forall_mem_cons.1 hw
    refine literalLength_of_allBlank hq hc ?_
    cases w with
    | nil => exact h
    | cons d w => exact ih hw (List.cons_ne_nil d w)

theorem literalLength_of_break {q : Char} (hq : isBlank q = false) {w : Text} (hw : AllBlank w)
    (hbreak : '\n' ∈ w) (s : Text) : literalLength q false (w ++ s) = none := by
  induction w with
  | nil => cases hbreak
  | cons c w ih =>
    obtain ⟨hc, hw⟩ := List.forall_mem_cons.1 hw
    by_cases hn : c = '\n'
    · subst hn
      have hquote : '\n' ≠ q := by
        rintro rfl
        cases hq
      rw [List.cons_append, literalLength, if_neg (by decide), if_neg hquote, if_pos rfl]
    · exact literalLength_of_allBlank hq hc (ih hw ((List.mem_cons.1 hbreak).resolve_left (Ne.symm hn)))

theorem literalLength_eq_none_behind {q : Char} {e : Bool} {a s : Text}
    (h : literalLength q e (a ++ s) = none) (hne : a ≠ []) (hlast : a.getLast? ≠ some '\\')
    (hbreak : '\n' ∉ a) : literalLength q false s = none := by
  induction a generalizing e with
  | nil => exact absurd rfl hne
  | cons c a ih =>
    have step {e : Bool} (he : e = true → c = '\\')
        (h : (literalLength q e (a ++ s)).map (· + 1) = none) : literalLength q false s = none := by
      rw [Option.map_eq_none_iff] at h
      cases a with
      | nil =>
        cases e with
        | false => exact h
        | true => exact absurd (congrArg some (he rfl)) hlast
      | cons d a =>
        rw [List.getLast?_cons_cons] at hlast
        exact ih h (List.cons_ne_nil d a) hlast fun hmem => hbreak (List.mem_cons_of_mem c hmem)
    rw [List.cons_append] at h
    cases e with
    | true => exact step Bool.noConfusion h
    | false =>
      rw [literalLength] at h
      split at h
      · next hc => exact step (fun _ => hc) h
      · split at h
        · cases h
        · split at h
          · next hc => exact absurd (hc ▸ List.mem_cons_self) hbreak
          · exact step Bool.noConfusion h

theorem getLast?_of_commentLength {star : Bool} {w s : Text}
    (h : commentLength star (w ++ s) = some w.length) : w.getLast? = some '/' := by
  induction w generalizing star with
  | nil => exact absurd (commentLength_pos h) (Nat.lt_irrefl 0)
  | cons c w ih =>
    rw [List.cons_append, commentLength] at h
    split at h
    · next hc =>
      obtain rfl : w = [] := by simpa using h
      simp only [Bool.and_eq_true, beq_iff_eq] at hc
      rw [hc.2]
      rfl
    · have hrest : commentLength (c == '*') (w ++ s) = some w.length := by simpa using h
      rw [List.getLast?_cons, ih hrest]
      rfl

theorem getLast?_of_literalLength {q : Char} {e : Bool} {w s : Text}
    (h : literalLength q e (w ++ s) = some w.length) : w.getLast? = some q := by
  induction w generalizing e with
  | nil => exact absurd (literalLength_pos h) (Nat.lt_irrefl 0)
  | cons c w ih =>
    have step {e : Bool} (h : (literalLength q e (w ++ s)).map (· + 1) = some (c :: w).length) :
        (c :: w).getLast? = some q := by
      have hrest : literalLength q e (w ++ s) = some w.length := by simpa using h
      rw [List.getLast?_cons, ih hrest]
      rfl
    rw [List.cons_append] at h
    cases e with
    | true => exact step h
    | false =>
      rw [literalLength] at h
      split at h
      · exact step h
      · split at h
        · next hc =>
          obtain rfl : w = [] := by simpa using h
          rw [hc]
          rfl
        · split at h
          · cases h
          · exact step h

theorem hidden_escapes_nothing {a s : Text} (h : hiddenLength (a ++ s) = some a.length) :
    a.getLast? ≠ some '\\' ∨ ∀ c ∈ s.head?, c = '\n' := by
  obtain ⟨c, d, w, rfl⟩ := exists_cons_cons (two_le_hiddenLength h)
  simp only [List.cons_append, List.length_cons] at h
  rcases hiddenLength_cases (c :: d :: (w ++ s)) with ⟨r, hr⟩ | ⟨r, hr⟩ | ⟨q, r, hq, hr⟩ | hnone
  · injection hr with hc hr
    injection hr with hd hr
    subst hc hd hr
    rw [hiddenLength_block] at h
    have hlast : w.getLast? = some '/' := getLast?_of_commentLength (by simpa using h)
    left
    rw [List.getLast?_cons_cons, List.getLast?_cons, hlast]
    decide
  · injection hr with hc hr
    injection hr with hd hr
    subst hc hd hr
    rw [hiddenLength_line] at h
    right
    intro c hc
    have hline := List.takeWhile_append_dropWhile (p := (· ≠ '\n')) (l := w ++ s)
    obtain ⟨-, hrest⟩ := List.append_inj hline (by simpa using h)
    have hstop := List.head?_dropWhile_not (· ≠ '\n') (w ++ s)
    rw [hrest, Option.mem_def.1 hc] at hstop
    simpa using hstop
  · injection hr with hc hr
    subst hc hr
    rw [hiddenLength_literal hq] at h
    have hlast : (d :: w).getLast? = some c := getLast?_of_literalLength (by simpa using h)
    left
    rw [List.getLast?_cons_cons, hlast]
    rcases hq with rfl | rfl <;> decide
  · rw [hnone] at h
    cases h

theorem literalLength_cons_eq_none {q : Char} {e : Bool} {c : Char} {r s : Text}
    (hrest : ∀ e, literalLength q e r = none → literalLength q e s = none)
    (h : literalLength q e (c :: r) = none) : literalLength q e (c :: s) = none := by
  have step {e : Bool} (h : (literalLength q e r).map (· + 1) = none) :
      (literalLength q e s).map (· + 1) = none := by
    rw [Option.map_eq_none_iff] at h ⊢
    exact hrest e h
  cases e with
  | true => exact step h
  | false =>
    rw [literalLength] at h ⊢
    split
    · next hescape => exact step (by rwa [if_pos hescape] at h)
    · next hescape =>
      rw [if_neg hescape] at h
      split
      · next hquote =>
        rw [if_pos hquote] at h
        cases h
      · next hquote =>
        rw [if_neg hquote] at h
        split
        · rfl
        · next hbreak => exact step (by rwa [if_neg hbreak] at h)

theorem literalLength_mask_of_lineEnd {q : Char} (hq : isBlank q = false) {s : Text}
    (hend : ∀ c ∈ s.head?, c = '\n') : literalLength q false (mask s) = none := by
  cases s with
  | nil => rfl
  | cons c r =>
    obtain rfl := hend c rfl
    rw [mask_cons_of_visible (hiddenLength_of_not_opensHidden (by decide) r)]
    exact literalLength_of_break hq (w := ['\n']) (by decide) (by decide) (mask r)

theorem literalLength_mask {q : Char} (hq : isBlank q = false) {e : Bool} {t : Text}
    (h : literalLength q e t = none) : literalLength q e (mask t) = none := by
  induction t using mask_induction generalizing e with
  | nil => exact h
  | visible c r hc ih =>
    rw [mask_cons_of_visible hc]
    exact literalLength_cons_eq_none (fun _ => ih) h
  | hidden a s ha ih =>
    obtain ⟨c, d, w, rfl⟩ := exists_cons_cons (two_le_hiddenLength ha)
    have hblank (a : Text) : AllBlank (a.map blankOut) := by
      intro x hx
      obtain ⟨y, -, rfl⟩ := List.mem_map.1 hx
      exact isBlank_blankOut y
    rw [mask_append_of_hidden ha]
    rcases hidden_escapes_nothing ha with hlast | hend
    · by_cases hbreak : '\n' ∈ c :: d :: w
      · have hfirst : '\n' ≠ c := by
          rintro rfl
          cases ha
        have hmem : '\n' ∈ (d :: w).map blankOut :=
          List.mem_map.2 ⟨'\n', (List.mem_cons.1 hbreak).resolve_left hfirst, rfl⟩
        exact literalLength_of_allBlank hq (isBlank_blankOut c) (literalLength_of_break hq (hblank _) hmem _)
      · exact literalLength_blanks_append hq (hblank _) (List.cons_ne_nil _ _)
          (ih (literalLength_eq_none_behind h (List.cons_ne_nil _ _) hlast hbreak))
    · exact literalLength_blanks_append hq (hblank _) (List.cons_ne_nil _ _)
        (literalLength_mask_of_lineEnd hq hend)

theorem hiddenLength_cons_mask {c : Char} {r : Text} (h : hiddenLength (c :: r) = none) :
    hiddenLength (c :: mask r) = none := by
  rcases hiddenLength_cases (c :: mask r) with ⟨x, hx⟩ | ⟨x, hx⟩ | ⟨q, x, hq, hx⟩ | hnone
  · injection hx with hc hx
    subst hc
    obtain ⟨r, rfl⟩ := List.head?_eq_some_iff.1 (head?_of_mask (by decide) (c := '*') (by rw [hx]; rfl))
    rw [mask_cons_of_visible (hiddenLength_of_not_opensHidden (by decide) r), hiddenLength_block,
      Option.map_eq_none_iff]
    rw [hiddenLength_block, Option.map_eq_none_iff] at h
    exact commentLength_maskFrom id h
  · injection hx with hc hx
    subst hc
    obtain ⟨r, rfl⟩ := List.head?_eq_some_iff.1 (head?_of_mask (by decide) (c := '/') (by rw [hx]; rfl))
    cases h
  · injection hx with hc hx
    subst hc
    rw [hiddenLength_literal hq, Option.map_eq_none_iff] at h ⊢
    exact literalLength_mask (by rcases hq with rfl | rfl <;> decide) h
  · exact hnone

def HidesNothing (t : Text) : Prop :=
  ∀ s, s <:+ t → hiddenLength s = none

theorem hidesNothing_cons {c : Char} {r : Text} :
    HidesNothing (c :: r) ↔ hiddenLength (c :: r) = none ∧ HidesNothing r := by
  constructor
  · exact fun h => ⟨h _ List.suffix_rfl, fun s hs => h s (hs.trans (List.suffix_cons c r))⟩
  · rintro ⟨hfirst, hrest⟩ s hs
    rcases List.suffix_cons_iff.1 hs with rfl | hs
    · exact hfirst
    · exact hrest s hs

theorem mask_eq_self {t : Text} (h : HidesNothing t) : mask t = t := by
  induction t with
  | nil => rfl
  | cons c r ih =>
    rw [hidesNothing_cons] at h
    rw [mask_cons_of_visible h.1, ih h.2]

theorem hidesNothing_mask (t : Text) : HidesNothing (mask t) := by
  induction t using mask_induction with
  | nil =>
    intro s hs
    rw [List.suffix_nil.1 hs]
    rfl
  | visible c r hc ih =>
    rw [mask_cons_of_visible hc, hidesNothing_cons]
    exact ⟨hiddenLength_cons_mask hc, ih⟩
  | hidden a s ha ih =>
    rw [mask_append_of_hidden ha]
    clear ha
    induction a with
    | nil => exact ih
    | cons c a iha =>
      rw [List.map_cons, List.cons_append, hidesNothing_cons]
      exact ⟨hiddenLength_of_not_opensHidden (opensHidden_of_isBlank (isBlank_blankOut c)) _, iha⟩

theorem mask_idempotent_in_layout (t : Text) :
    (mask t).length = t.length ∧ (∀ i : Nat, (mask t)[i]? = t[i]? ∨ (mask t)[i]? = some ' ') ∧
      (∀ i : Nat, (mask t)[i]? = some '\n' ↔ t[i]? = some '\n') ∧
      HidesNothing (mask t) ∧ mask (mask t) = mask t :=
  ⟨length_mask t, getElem?_mask_cases t, fun _ => getElem?_maskFrom_eq_newline_iff, hidesNothing_mask t,
    mask_eq_self (hidesNothing_mask t)⟩

end HeaderProbe
