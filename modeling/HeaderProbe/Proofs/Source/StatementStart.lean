import HeaderProbe.Proofs.Source.Boundary
import Mathlib.Order.Monotone.Defs

namespace HeaderProbe

open Text

theorem exists_unparted_statementRest (z : Text) :
    ∃ q, q ++ statementRest z.reverse = z ∧ Unparted q (statementRest z.reverse) := by
  obtain ⟨q, hq⟩ := statementRest_suffix z
  refine ⟨q, hq, unparted_iff.2 (List.suffix_of_suffix_length_le ⟨q, rfl⟩ (statementRest_suffix _) ?_)⟩
  rw [hq]

theorem statementRest_append_suffix (z w : Text) :
    statementRest (z ++ w).reverse <:+ statementRest z.reverse ++ w := by
  obtain ⟨q, hq, hopen⟩ := exists_unparted_statementRest (z ++ w)
  generalize statementRest (z ++ w).reverse = r at hq hopen
  rcases List.append_eq_append_iff.1 hq with ⟨y, rfl, rfl⟩ | ⟨y, -, rfl⟩
  · obtain ⟨u, hu⟩ := unparted_iff.1 (unparted_append.1 hopen).1
    rw [← hu, List.append_assoc]
    exact List.suffix_append u (y ++ w)
  · exact (List.suffix_append y r).trans (List.suffix_append _ (y ++ r))

theorem statementRest_of_append {y u v : Text} (h : statementRest (y ++ v).reverse = u ++ v) :
    statementRest y.reverse = u := by
  have hspec := statementRest_spec (y ++ v)
  rw [h] at hspec
  rcases hspec with ⟨hwhole, hopen⟩ | ⟨x, c, hsplit, hpart, hopen⟩
  · obtain rfl := List.append_cancel_right hwhole
    have hu := unparted_iff.1 (unparted_append.1 hopen).1
    exact (statementRest_suffix u).eq_of_length_le hu.length_le
  · have hy : y = x ++ c :: u := List.append_cancel_right
      (by simpa using hsplit : y ++ v = (x ++ c :: u) ++ v)
    rw [hy]
    exact statementRest_eq_of_parts hpart (unparted_append.1 hopen).1

/-- Whether a text ends where a statement may begin: at the start of all text, or past blanks behind the end of
a statement or preprocessor line. -/
def EndsBeforeStatement (z : Text) : Prop :=
  ∃ x w, z = x ++ w ∧ AllBlank w ∧ (x = [] ∨ ∃ y c, x = y ++ [c] ∧ Parts y c)

theorem exists_statementHead (z : Text) :
    ∃ y, z = y ++ statementHead z.reverse ∧ EndsBeforeStatement y ∧ statementHead y.reverse = [] := by
  have hrest := takeWhile_append_skipBlanks (statementRest z.reverse)
  have hblank := allBlank_takeWhile (statementRest z.reverse)
  generalize (statementRest z.reverse).takeWhile isBlank = w at hrest hblank
  rw [← statementHead] at hrest
  obtain ⟨q, hq⟩ := statementRest_suffix z
  have hz : z = (q ++ w) ++ statementHead z.reverse := by
    rw [List.append_assoc, hrest, hq]
  refine ⟨q ++ w, hz, ⟨q, w, rfl, hblank, ?_⟩, ?_⟩
  · rcases statementRest_spec z with ⟨hwhole, -⟩ | ⟨x, c, hsplit, hpart, -⟩
    · left
      rw [hwhole] at hq
      exact List.append_cancel_right (hq.trans (List.nil_append z).symm)
    · right
      refine ⟨x, c, ?_, hpart⟩
      rw [List.append_cons] at hsplit
      exact List.append_cancel_right (hq.trans hsplit)
  · have hinner : statementRest (q ++ w).reverse = w := by
      apply statementRest_of_append (v := statementHead z.reverse)
      rw [← hz, hrest]
    rw [statementHead, hinner]
    exact List.dropWhile_eq_nil_iff.2 hblank

theorem exists_statementRest_eq_iff {z x : Text} :
    (∃ w, AllBlank w ∧ statementRest (z ++ x).reverse = w ++ x) ↔ EndsBeforeStatement z ∧ Unparted z x := by
  constructor
  · rintro ⟨w, hw, hrest⟩
    refine ⟨?_, unparted_iff.2 ⟨w, hrest.symm⟩⟩
    have hspec := statementRest_spec z
    rw [statementRest_of_append hrest] at hspec
    rcases hspec with ⟨rfl, -⟩ | ⟨y, c, hsplit, hpart, -⟩
    · exact ⟨[], w, rfl, hw, .inl rfl⟩
    · exact ⟨y ++ [c], w, by rw [hsplit, List.append_assoc]; rfl, hw, .inr ⟨y, c, rfl, hpart⟩⟩
  · rintro ⟨⟨y, w, rfl, hw, hy⟩, hopen⟩
    obtain ⟨v, hv⟩ := unparted_iff.1 hopen
    refine ⟨v, fun c hc => hw c ?_, hv.symm⟩
    have hsuffix := statementRest_append_suffix y w
    rw [statementRest_of_append hv.symm] at hsuffix
    have hnil : statementRest y.reverse = [] := by
      rcases hy with rfl | ⟨y, d, rfl, hpart⟩
      · exact List.suffix_nil.1 (statementRest_suffix [])
      · exact statementRest_eq_of_parts hpart fun x c r hr => absurd hr (by simp)
    rw [hnil] at hsuffix
    exact hsuffix.mem hc

theorem EndsBeforeStatement.statementHead_eq {z x : Text} (hz : EndsBeforeStatement z) (hx : Unparted z x) :
    statementHead (z ++ x).reverse = skipBlanks x := by
  obtain ⟨w, hw, hrest⟩ := exists_statementRest_eq_iff.2 ⟨hz, hx⟩
  rw [statementHead, hrest, skipBlanks_append hw]

theorem Lead.endsBeforeStatement {fresh : Bool} {b lead r : Text} (h : Lead DirectiveLine fresh lead)
    (hb : EndsBefore fresh b) (hr : Plain r) :
    EndsBeforeStatement (b.reverse ++ lead) ∧ Unparted (b.reverse ++ lead) r := by
  obtain ⟨w, hw, hrest⟩ := h.exists_afterDirectives fun _ => afterDirectives_eq_none hr.hashless
  refine exists_statementRest_eq_iff.1 ⟨w, hw, ?_⟩
  have hclosed : ∀ c ∈ lead ++ r, endsStatement c = false :=
    List.forall_mem_append.2 ⟨h.closed, hr.closed⟩
  have hbefore : (b.reverse ++ lead ++ r).reverse = (lead ++ r).reverse ++ b := by simp
  rw [hbefore, statementRest_eq hclosed hb, hrest]

def startAt (m : Text) (p : Nat) : Nat :=
  statementStart (Place.of m p).before

theorem startAt_eq (m : Text) (p : Nat) :
    startAt m p = (m.take p).length - (statementHead (m.take p).reverse).length := by
  rw [startAt, statementStart, Place.of, List.length_reverse]

theorem startAt_le (m : Text) (p : Nat) : startAt m p ≤ p := by
  rw [startAt_eq, List.length_take]
  omega

theorem take_startAt (m : Text) (p : Nat) :
    m.take p = m.take (startAt m p) ++ statementHead (m.take p).reverse ∧
      EndsBeforeStatement (m.take (startAt m p)) ∧ startAt m (startAt m p) = startAt m p := by
  obtain ⟨y, hy, hends, hhead⟩ := exists_statementHead (m.take p)
  have hlength : startAt m p = y.length := by
    have hsum := congrArg List.length hy
    rw [List.length_append] at hsum
    rw [startAt_eq]
    omega
  have hcut : m.take (startAt m p) = y := by
    have hprefix : y <+: m := (List.prefix_append y _).trans (hy ▸ List.take_prefix p m)
    rw [hlength]
    exact (List.prefix_iff_eq_take.1 hprefix).symm
  refine ⟨by rw [hcut, ← hy], by rw [hcut]; exact hends, ?_⟩
  rw [startAt_eq, hcut, hhead, List.length_nil, Nat.sub_zero, hlength]

theorem extract_startAt (m : Text) (p : Nat) :
    m.extract (startAt m p) p = statementHead (m.take p).reverse := by
  have hlength : (m.take (startAt m p)).length = startAt m p := by
    rw [List.length_take, startAt_eq, List.length_take]
    omega
  calc m.extract (startAt m p) p
      = (m.take p).drop (startAt m p) := by rw [List.extract_eq_take_drop, List.drop_take]
    _ = (m.take (startAt m p) ++ statementHead (m.take p).reverse).drop (startAt m p) := by
        rw [← (take_startAt m p).1]
    _ = statementHead (m.take p).reverse := List.drop_left' hlength

theorem length_statementHead_append_le (z w : Text) :
    (statementHead (z ++ w).reverse).length ≤ (statementHead z.reverse).length + w.length :=
  (length_skipBlanks_le_of_suffix (statementRest_append_suffix z w)).trans
    (length_skipBlanks_append_le (statementRest z.reverse) w)

theorem monotone_startAt (m : Text) : Monotone (startAt m) := by
  intro p q hpq
  have hsplit : m.take q = m.take p ++ (m.take q).drop p := by
    conv_lhs => rw [← List.take_append_drop p (m.take q), List.take_take, Nat.min_eq_left hpq]
  have hhead := length_statementHead_append_le (m.take p) ((m.take q).drop p)
  rw [← hsplit] at hhead
  have hlength := congrArg List.length hsplit
  rw [List.length_append] at hlength
  rw [startAt_eq, startAt_eq]
  omega

theorem startAt_idempotent_monotone (m : Text) :
    (∀ p, startAt m p ≤ p) ∧
      (∀ p, ';' ∉ m.extract (startAt m p) p ∧ '{' ∉ m.extract (startAt m p) p ∧
        '}' ∉ m.extract (startAt m p) p) ∧
      (∀ p, EndsBeforeStatement (m.take (startAt m p))) ∧
      (∀ p, startAt m (startAt m p) = startAt m p) ∧ Monotone (startAt m) := by
  refine ⟨startAt_le m, fun p => ?_, fun p => (take_startAt m p).2.1, fun p => (take_startAt m p).2.2,
    monotone_startAt m⟩
  have hopen {c : Char} (hc : endsStatement c = true) : c ∉ m.extract (startAt m p) p := by
    intro h
    rw [extract_startAt] at h
    rw [statementHead_closed _ c h] at hc
    cases hc
  exact ⟨hopen rfl, hopen rfl, hopen rfl⟩

end HeaderProbe
