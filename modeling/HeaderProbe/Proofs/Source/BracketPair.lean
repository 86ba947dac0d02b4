import HeaderProbe.Proofs.Source.Partner

namespace HeaderProbe

namespace Bracket

theorem excess_reverse_swap (up down : Char) (u : Text) : excess down up u.reverse = -excess up down u := by
  simp only [excess, List.count_reverse]
  omega

theorem Paired.reverse {up down : Char} {u : Text} (h : Paired up down u) : Paired down up u.reverse := by
  obtain ⟨hzero, hnonneg⟩ := h
  refine ⟨by rw [excess_reverse_swap, hzero, Int.neg_zero], fun x y hxy => ?_⟩
  have hu : u = y.reverse ++ x.reverse := by rw [← List.reverse_append, ← hxy, List.reverse_reverse]
  have hy := hnonneg y.reverse x.reverse hu
  have hx := excess_reverse_swap up down x.reverse
  rw [List.reverse_reverse] at hx
  rw [hu, excess_append] at hzero
  omega

theorem beforeOpen_eq_some_iff_paired {b : Bracket} {s r : Text} :
    b.beforeOpen (b.closing :: s) = some r ↔
      ∃ u, Paired b.opening b.closing u ∧ s = u.reverse ++ b.opening :: r := by
  rw [beforeOpen, partner, if_pos rfl, partner_eq_some_iff_paired (opening_ne_closing b b).symm]
  constructor
  · rintro ⟨u, hu, rfl⟩
    exact ⟨u.reverse, hu.reverse, by rw [List.reverse_reverse]⟩
  · rintro ⟨u, hu, rfl⟩
    exact ⟨u.reverse, hu.reverse, rfl⟩

def Partners (b : Bracket) (m : Text) (p q : Nat) : Prop :=
  ∃ a u r, m = a ++ b.opening :: (u ++ b.closing :: r) ∧ a.length = p ∧
    p + 1 + u.length = q ∧ Paired b.opening b.closing u

theorem ofClosing?_closing (b : Bracket) : ofClosing? b.closing = some b := by
  cases b <;> rfl

end Bracket

variable {b : Bracket} {m : Text} {p q : Nat}

theorem matchClose_eq_some_iff_partners :
    m[p]? = some b.opening ∧ matchClose m p = some (q + 1) ↔ b.Partners m p q := by
  constructor
  · rintro ⟨hp, h⟩
    obtain ⟨a, s, rfl, rfl⟩ := exists_append_of_getElem? hp
    obtain ⟨r, hr, hq⟩ := Bracket.isLeast_closings_iff.1 ((matchClose_eq_some_iff hp).1 h)
    obtain ⟨u, hu, rfl⟩ := Bracket.afterClose_eq_some_iff_paired.1 hr
    refine ⟨a, u, r, rfl, rfl, ?_, hu⟩
    simp only [List.length_append, List.length_cons] at hq
    omega
  · rintro ⟨a, u, r, rfl, rfl, rfl, hu⟩
    refine ⟨by simp, ?_⟩
    rw [matchClose_of_afterClose (Bracket.afterClose_eq_some_iff_paired.2 ⟨u, hu, rfl⟩)]
    simp only [List.length_append, List.length_cons, Option.some.injEq]
    omega

theorem matchOpen_eq_some_iff_partners (hq : m[q]? = some b.closing) :
    matchOpen m q = some p ↔ b.Partners m p q := by
  obtain ⟨s, r, rfl, rfl⟩ := exists_append_of_getElem? hq
  have hbefore : ((s ++ b.closing :: r).take (s.length + 1)).reverse = b.closing :: s.reverse := by
    rw [List.take_length_add_append, List.take_succ_cons, List.take_zero, List.reverse_concat]
  have hopen : matchOpen (s ++ b.closing :: r) s.length =
      (b.beforeOpen (b.closing :: s.reverse)).map List.length := by
    rw [matchOpen, hq, Option.bind_some, Bracket.ofClosing?_closing, hbefore, Option.map_eq_bind]
    rfl
  rw [hopen, Option.map_eq_some_iff]
  constructor
  · rintro ⟨a, ha, rfl⟩
    obtain ⟨u, hu, hs⟩ := Bracket.beforeOpen_eq_some_iff_paired.1 ha
    obtain rfl : s = a.reverse ++ b.opening :: u := by
      rw [← List.reverse_reverse s, hs]
      simp
    refine ⟨a.reverse, u, r, by simp, List.length_reverse, ?_, hu⟩
    simp only [List.length_append, List.length_reverse, List.length_cons]
    omega
  · rintro ⟨a, u, r', hm, rfl, hlength, hu⟩
    have hsplit : s ++ b.closing :: r = (a ++ b.opening :: u) ++ b.closing :: r' := by simpa using hm
    obtain ⟨rfl, -⟩ := List.append_inj hsplit (by
      simp only [List.length_append, List.length_cons]
      omega)
    exact ⟨a.reverse, Bracket.beforeOpen_eq_some_iff_paired.2 ⟨u, hu, by simp⟩, List.length_reverse⟩

theorem matchClose_eq_none_iff (hp : m[p]? = some b.opening) :
    matchClose m p = none ↔ b.closings m p = ∅ := by
  constructor
  · intro h
    obtain ⟨a, s, rfl, rfl⟩ := exists_append_of_getElem? hp
    refine Bracket.closings_eq_empty ?_
    cases hclose : b.afterClose (b.opening :: s) with
    | none => rfl
    | some r =>
      rw [matchClose_of_afterClose hclose] at h
      cases h
  · intro h
    cases hclose : matchClose m p with
    | none => rfl
    | some e =>
      have hmem := ((matchClose_eq_some_iff hp).1 hclose).1
      rw [h] at hmem
      cases hmem

theorem partners_found_from_both_sides (m : Text) (b : Bracket) :
    (∀ p, m[p]? = some b.opening →
      (∀ e, matchClose m p = some e ↔ IsLeast (b.closings m p) e) ∧
        (matchClose m p = none ↔ b.closings m p = ∅)) ∧
      ∀ q, m[q]? = some b.closing →
        ∀ p, matchOpen m q = some p ↔ m[p]? = some b.opening ∧ matchClose m p = some (q + 1) := by
  refine ⟨fun p hp => ⟨fun e => matchClose_eq_some_iff hp, matchClose_eq_none_iff hp⟩, fun q hq p => ?_⟩
  rw [matchOpen_eq_some_iff_partners hq, matchClose_eq_some_iff_partners]

theorem partners_found_amid_unpaired :
    IsLeast (Bracket.paren.closings ")(a[()]b)(".toList 1) 9 ∧ matchOpen ")(a[()]b)(".toList 8 = some 1 ∧
      Bracket.paren.closings ")(a[()]b)(".toList 9 = ∅ := by
  obtain ⟨hclose, hopen⟩ := partners_found_from_both_sides ")(a[()]b)(".toList .paren
  obtain ⟨hleast, -⟩ := hclose 1 (by decide)
  obtain ⟨-, hnone⟩ := hclose 9 (by decide)
  exact ⟨(hleast 9).1 (by decide), (hopen 8 (by decide) 1).2 ⟨by decide, by decide⟩, hnone.1 (by decide)⟩

end HeaderProbe
