import HeaderProbe.Proofs.Text.Strip
import HeaderProbe.Source.Bracket
import Mathlib.Data.List.Basic
import Mathlib.Order.Bounds.Basic

namespace HeaderProbe.Bracket

theorem partner_append {up down : Char} {d : Nat} {a r : Text}
    (h : partner up down d a = some r) (b : Text) :
    partner up down d (a ++ b) = some (r ++ b) := by
  fun_induction partner up down d a with
  | case1 => cases h
  | case2 d s ih => simpa [partner] using ih h
  | case3 d s hne hdepth =>
    cases h
    simp_all [partner]
  | case4 d s hne hdepth ih => simpa [partner, hdepth, hne] using ih h
  | case5 d c s hc hd ih => simpa [partner, hc, hd] using ih h

theorem exists_of_partner {up down : Char} {d : Nat} {s r : Text}
    (h : partner up down d s = some r) :
    ∃ u, s = u ++ down :: r ∧ partner up down d (u ++ [down]) = some [] := by
  fun_induction partner up down d s with
  | case1 => cases h
  | case2 d s ih =>
    obtain ⟨u, rfl, hu⟩ := ih h
    exact ⟨up :: u, rfl, by simpa [partner] using hu⟩
  | case3 d s hne hdepth =>
    cases h
    exact ⟨[], rfl, by simp_all [partner]⟩
  | case4 d s hne hdepth ih =>
    obtain ⟨u, rfl, hu⟩ := ih h
    exact ⟨down :: u, rfl, by simpa [partner, hdepth, hne] using hu⟩
  | case5 d c s hc hd ih =>
    obtain ⟨u, rfl, hu⟩ := ih h
    exact ⟨c :: u, rfl, by simpa [partner, hc, hd] using hu⟩

theorem partner_eq_some_iff {up down : Char} {d : Nat} {s r : Text} :
    partner up down d s = some r ↔
      ∃ u, s = u ++ down :: r ∧ partner up down d (u ++ [down]) = some [] := by
  refine ⟨exists_of_partner, ?_⟩
  rintro ⟨u, rfl, hu⟩
  simpa using partner_append hu r

def excess (up down : Char) (s : Text) : Int :=
  (s.count up : Int) - s.count down

section

variable {up down : Char}

@[simp] theorem excess_nil : excess up down [] = 0 :=
  rfl

theorem excess_append (s r : Text) : excess up down (s ++ r) = excess up down s + excess up down r := by
  simp only [excess, List.count_append]
  omega

theorem excess_eq_zero_iff {s : Text} : excess up down s = 0 ↔ s.count up = s.count down := by
  rw [excess]
  omega

theorem excess_of_ne {c : Char} (hup : c ≠ up) (hdown : c ≠ down) (s : Text) :
    excess up down (c :: s) = excess up down s := by
  simp [excess, hup, hdown]

variable (hne : up ≠ down)
include hne

theorem excess_up (s : Text) : excess up down (up :: s) = 1 + excess up down s := by
  simp only [excess, List.count_cons_self, List.count_cons_of_ne hne]
  omega

theorem excess_down (s : Text) : excess up down (down :: s) = -1 + excess up down s := by
  simp only [excess, List.count_cons_self, List.count_cons_of_ne hne.symm]
  omega

theorem exists_of_partner_excess {d : Nat} {s r : Text} (h : partner up down (d + 1) s = some r) :
    ∃ u, s = u ++ down :: r ∧ d + excess up down u = 0 ∧
      ∀ x y, u = x ++ y → 0 ≤ d + excess up down x := by
  induction s generalizing d with
  | nil => cases h
  | cons c s ih =>
    -- What is found behind `c`, from the depth that `c` leaves, is found from before it.
    have step {k : Nat} (hk : ∀ x, d + excess up down (c :: x) = k + excess up down x)
        (hrest : partner up down (k + 1) s = some r) :
        ∃ u, c :: s = u ++ down :: r ∧ d + excess up down u = 0 ∧
          ∀ x y, u = x ++ y → 0 ≤ d + excess up down x := by
      obtain ⟨u, rfl, hu, hnonneg⟩ := ih hrest
      refine ⟨c :: u, rfl, by rw [hk, hu], fun x y hxy => ?_⟩
      cases x with
      | nil => simp
      | cons e x =>
        obtain ⟨rfl, hu⟩ := List.cons.inj hxy
        rw [hk]
        exact hnonneg x y hu
    rw [partner] at h
    split at h
    · next hc =>
      subst hc
      exact step (fun x => by rw [excess_up hne]; push_cast; omega) h
    · next hup =>
      split at h
      · next hc =>
        subst hc
        split at h
        · next hd =>
          cases h
          obtain rfl : d = 0 := by omega
          refine ⟨[], rfl, by simp, fun x y hxy => ?_⟩
          rw [(List.append_eq_nil_iff.1 hxy.symm).1]
          simp
        · next hd =>
          obtain ⟨k, rfl⟩ : ∃ k, d = k + 1 := ⟨d - 1, by omega⟩
          exact step (fun x => by rw [excess_down hne]; push_cast; omega) h
      · next hdown => exact step (fun x => by rw [excess_of_ne hup hdown]) h

theorem excess_of_partner_eq_none {d : Nat} {s x y : Text} (h : partner up down (d + 1) s = none)
    (hs : s = x ++ y) : 0 ≤ d + excess up down x := by
  induction s generalizing d x with
  | nil =>
    rw [(List.append_eq_nil_iff.1 hs.symm).1]
    simp
  | cons c s ih =>
    cases x with
    | nil => simp
    | cons e x =>
      obtain ⟨rfl, hrest⟩ := List.cons.inj hs
      have step {k : Nat} (hk : d + excess up down (c :: x) = k + excess up down x)
          (hnone : partner up down (k + 1) s = none) : 0 ≤ d + excess up down (c :: x) := by
        rw [hk]
        exact ih hnone hrest
      rw [partner] at h
      split at h
      · next hc =>
        subst hc
        exact step (by rw [excess_up hne]; push_cast; omega) h
      · next hup =>
        split at h
        · next hc =>
          subst hc
          split at h
          · cases h
          · next hd =>
            obtain ⟨k, rfl⟩ : ∃ k, d = k + 1 := ⟨d - 1, by omega⟩
            exact step (by rw [excess_down hne]; push_cast; omega) h
        · next hdown => exact step (by rw [excess_of_ne hup hdown]) h

theorem partner_of_excess {d : Nat} {u : Text} (hu : d + excess up down u = 0)
    (hnonneg : ∀ x y, u = x ++ y → 0 ≤ d + excess up down x) (r : Text) :
    partner up down (d + 1) (u ++ down :: r) = some r := by
  induction u generalizing d with
  | nil =>
    obtain rfl : d = 0 := by simpa using hu
    simp [partner, hne.symm]
  | cons c u ih =>
    have step {k : Nat} (hk : ∀ x, d + excess up down (c :: x) = k + excess up down x) :
        partner up down (k + 1) (u ++ down :: r) = some r := by
      refine ih (by rw [← hk, hu]) fun x y hxy => ?_
      rw [← hk]
      exact hnonneg (c :: x) y (by rw [hxy]; rfl)
    rw [List.cons_append, partner]
    split
    · next hc =>
      subst hc
      exact step fun x => by rw [excess_up hne]; push_cast; omega
    · next hup =>
      split
      · next hc =>
        subst hc
        have hfirst := hnonneg [c] u rfl
        rw [excess_down hne, excess_nil] at hfirst
        obtain ⟨k, rfl⟩ : ∃ k, d = k + 1 := ⟨d - 1, by omega⟩
        rw [if_neg (by omega)]
        exact step fun x => by rw [excess_down hne]; push_cast; omega
      · next hdown => exact step fun x => by rw [excess_of_ne hup hdown]

end

def Paired (up down : Char) (u : Text) : Prop :=
  excess up down u = 0 ∧ ∀ x y, u = x ++ y → 0 ≤ excess up down x

section

variable {up down : Char} {u x y : Text} (hne : up ≠ down)
include hne

theorem partner_eq_some_iff_paired {s r : Text} :
    partner up down (0 + 1) s = some r ↔ ∃ u, Paired up down u ∧ s = u ++ down :: r := by
  constructor
  · intro h
    obtain ⟨u, rfl, hzero, hnonneg⟩ := exists_of_partner_excess hne h
    exact ⟨u, ⟨by simpa using hzero, by simpa using hnonneg⟩, rfl⟩
  · rintro ⟨u, ⟨hzero, hnonneg⟩, rfl⟩
    exact partner_of_excess hne (by simpa using hzero) (by simpa using hnonneg) r

theorem paired_of_partner {r : Text} (h : partner up down (0 + 1) (u ++ down :: r) = some r) :
    Paired up down u := by
  obtain ⟨v, hv, heq⟩ := (partner_eq_some_iff_paired hne).1 h
  rwa [List.append_cancel_right heq]

theorem Paired.exists_partner (h : Paired up down u) (hsplit : u = x ++ up :: y) :
    ∃ z, partner up down (0 + 1) y = some z := by
  obtain ⟨hu, hnonneg⟩ := h
  have hx := hnonneg x (up :: y) hsplit
  rw [hsplit, excess_append, excess_up hne] at hu
  cases h : partner up down (0 + 1) y with
  | some z => exact ⟨z, rfl⟩
  | none =>
    have hy := excess_of_partner_eq_none hne h (List.append_nil y).symm
    omega

theorem Paired.exists_of_partner {more r : Text} (hu : Paired up down u) (hsplit : u = x ++ up :: y)
    (h : partner up down (0 + 1) (y ++ more) = some r) : ∃ z, r = z ++ more := by
  obtain ⟨z, hz⟩ := hu.exists_partner hne hsplit
  rw [partner_append hz more] at h
  exact ⟨z, (Option.some.inj h).symm⟩

end

theorem opening_ne_closing (b b' : Bracket) : b.opening ≠ b'.closing := by
  cases b <;> cases b' <;> decide

def closings (b : Bracket) (m : Text) (p : Nat) : Set Nat :=
  {e | p < e ∧ e ≤ m.length ∧ (m.extract p e).count b.opening = (m.extract p e).count b.closing}

section

variable {b : Bracket} {a s : Text}

theorem mem_closings_iff {e : Nat} :
    e ∈ b.closings (a ++ b.opening :: s) a.length ↔
      ∃ x y, s = x ++ y ∧ e = a.length + 1 + x.length ∧ excess b.opening b.closing x = -1 := by
  have hne := opening_ne_closing b b
  have hcut (n : Nat) : (a ++ b.opening :: s).extract a.length (a.length + 1 + n) =
      b.opening :: s.take n := by
    have hwidth : a.length + 1 + n - a.length = n + 1 := by omega
    rw [List.extract_eq_take_drop, List.drop_left, hwidth, List.take_succ_cons]
  have hcount (x : Text) : (b.opening :: x).count b.opening = (b.opening :: x).count b.closing ↔
      excess b.opening b.closing x = -1 := by
    rw [← excess_eq_zero_iff, excess_up hne]
    omega
  constructor
  · rintro ⟨hlt, hle, heq⟩
    obtain ⟨n, rfl⟩ : ∃ n, e = a.length + 1 + n := ⟨e - (a.length + 1), by omega⟩
    rw [hcut, hcount] at heq
    rw [List.length_append, List.length_cons] at hle
    exact ⟨s.take n, s.drop n, (List.take_append_drop n s).symm, by rw [List.length_take]; omega, heq⟩
  · rintro ⟨x, y, rfl, rfl, hx⟩
    refine ⟨by omega, by simp; omega, ?_⟩
    rw [hcut, List.take_left, hcount]
    exact hx

theorem afterClose_opening : b.afterClose (b.opening :: s) = partner b.opening b.closing (0 + 1) s := by
  rw [afterClose, partner, if_pos rfl]

theorem afterClose_eq_some_iff_paired {r : Text} :
    b.afterClose (b.opening :: s) = some r ↔
      ∃ u, Paired b.opening b.closing u ∧ s = u ++ b.closing :: r := by
  rw [afterClose_opening]
  exact partner_eq_some_iff_paired (opening_ne_closing b b)

theorem closings_eq_empty (h : b.afterClose (b.opening :: s) = none) :
    b.closings (a ++ b.opening :: s) a.length = ∅ := by
  refine Set.eq_empty_iff_forall_notMem.2 fun e he => ?_
  obtain ⟨x, y, hs, -, hx⟩ := mem_closings_iff.1 he
  rw [afterClose_opening] at h
  have := excess_of_partner_eq_none (opening_ne_closing b b) h hs
  omega

theorem isLeast_closings_of_afterClose {r : Text} (h : b.afterClose (b.opening :: s) = some r) :
    IsLeast (b.closings (a ++ b.opening :: s) a.length) ((a ++ b.opening :: s).length - r.length) := by
  have hne := opening_ne_closing b b
  rw [afterClose_opening] at h
  obtain ⟨u, rfl, hu, hnonneg⟩ := exists_of_partner_excess hne h
  constructor
  · refine mem_closings_iff.2 ⟨u ++ [b.closing], r, by simp, ?_, ?_⟩
    · simp only [List.length_append, List.length_cons, List.length_nil]
      omega
    · rw [excess_append, excess_down hne, excess_nil]
      omega
  · intro e he
    obtain ⟨x, y, hxy, rfl, hx⟩ := mem_closings_iff.1 he
    by_contra hlt
    simp only [List.length_append, List.length_cons] at hlt
    have hcut : x <+: u := by
      refine List.prefix_of_prefix_length_le ⟨y, hxy.symm⟩ (List.prefix_append u _) (by omega)
    obtain ⟨z, hz⟩ := hcut
    have := hnonneg x z hz.symm
    omega

theorem isLeast_closings_iff {e : Nat} :
    IsLeast (b.closings (a ++ b.opening :: s) a.length) e ↔
      ∃ r, b.afterClose (b.opening :: s) = some r ∧ e = (a ++ b.opening :: s).length - r.length := by
  constructor
  · intro h
    cases hclose : b.afterClose (b.opening :: s) with
    | none =>
      have hmem := h.1
      rw [closings_eq_empty hclose] at hmem
      cases hmem
    | some r => exact ⟨r, rfl, h.unique (isLeast_closings_of_afterClose hclose)⟩
  · rintro ⟨r, hclose, rfl⟩
    exact isLeast_closings_of_afterClose hclose

end

theorem ofOpening?_opening (b : Bracket) : ofOpening? b.opening = some b := by
  cases b <;> rfl

end HeaderProbe.Bracket

namespace HeaderProbe

theorem matchClose_eq_some_iff {m : Text} {p e : Nat} {b : Bracket} (hp : m[p]? = some b.opening) :
    matchClose m p = some e ↔ IsLeast (b.closings m p) e := by
  obtain ⟨a, s, rfl, rfl⟩ := exists_append_of_getElem? hp
  rw [Bracket.isLeast_closings_iff, matchClose, hp, Option.bind_some, Bracket.ofOpening?_opening,
    List.drop_left]
  simp only [Option.bind_eq_bind, Option.bind_some, Option.bind_eq_some_iff, Option.pure_def,
    Option.some.injEq]
  exact exists_congr fun r => and_congr_right fun _ => eq_comm

theorem matchClose_of_afterClose {b : Bracket} {a s r : Text} (h : b.afterClose (b.opening :: s) = some r) :
    matchClose (a ++ b.opening :: s) a.length = some ((a ++ b.opening :: s).length - r.length) :=
  (matchClose_eq_some_iff (by simp)).2 (Bracket.isLeast_closings_of_afterClose h)

end HeaderProbe
