import HeaderProbe.Proofs.Mask.Join

namespace HeaderProbe

open Text

def closingMark : Text := "*/".toList

theorem closingMark_prefix_iff {c : Char} {s : Text} :
    closingMark <+: c :: s ↔ c = '*' ∧ s.head? = some '/' := by
  unfold closingMark
  cases s <;> simp [List.cons_prefix_cons, eq_comm]

theorem closingMark_ne_nil : closingMark ≠ [] := by
  decide

theorem closingMark_infix_append_iff {x y : Text} :
    closingMark <:+: x ++ y ↔
      closingMark <:+: x ∨ closingMark <:+: y ∨ x.getLast? = some '*' ∧ y.head? = some '/' := by
  induction x with
  | nil => simp [closingMark_ne_nil]
  | cons c x ih =>
    rw [List.cons_append, List.infix_cons_iff, List.infix_cons_iff, ih, closingMark_prefix_iff,
      closingMark_prefix_iff]
    cases x with
    | nil => simp [closingMark_ne_nil, or_comm]
    | cons d x => simp [or_assoc]

theorem exists_first_closingMark {s : Text} (h : closingMark <:+: s) :
    ∃ a b, s = a ++ closingMark ++ b ∧ ¬ closingMark <:+: a ++ ['*'] := by
  induction s with
  | nil => exact absurd (List.infix_nil.1 h) closingMark_ne_nil
  | cons c s ih =>
    by_cases hfirst : closingMark <+: c :: s
    · obtain ⟨b, hb⟩ := hfirst
      exact ⟨[], b, hb.symm, fun h => absurd h.length_le (by decide)⟩
    · obtain ⟨a, b, rfl, ha⟩ := ih ((List.infix_cons_iff.1 h).resolve_left hfirst)
      refine ⟨c :: a, b, rfl, ?_⟩
      rw [List.cons_append, List.infix_cons_iff, not_or]
      refine ⟨fun hstart => hfirst ?_, ha⟩
      rw [closingMark_prefix_iff] at hstart ⊢
      refine ⟨hstart.1, ?_⟩
      cases a with
      | nil => simp at hstart
      | cons d a => simpa using hstart.2

theorem commentLength_of_first {star : Bool} {a : Text} (s : Text) (ha : ¬ closingMark <:+: a ++ ['*'])
    (hstar : star = true → a.head? ≠ some '/') :
    commentLength star (a ++ closingMark ++ s) = some (a.length + 2) := by
  induction a generalizing star with
  | nil => simp [closingMark, commentLength]
  | cons c a ih =>
    rw [List.cons_append, List.infix_cons_iff, not_or, closingMark_prefix_iff] at ha
    have hopen : (star && c == '/') = false := by
      cases star with
      | false => rfl
      | true => simpa using hstar rfl
    have hnext : (c == '*') = true → a.head? ≠ some '/' := by
      intro hc hslash
      refine ha.1 ⟨beq_iff_eq.1 hc, ?_⟩
      rw [List.head?_append, hslash, Option.some_or]
    rw [List.cons_append, List.cons_append, commentLength, hopen, if_neg Bool.false_ne_true,
      ih ha.2 hnext, Option.map_some, List.length_cons]

theorem hiddenLength_of_first {a : Text} (s : Text) (ha : ¬ closingMark <:+: a ++ ['*']) :
    hiddenLength ("/*".toList ++ (a ++ closingMark ++ s)) =
      some ("/*".toList ++ a ++ closingMark).length := by
  have hopen : "/*".toList ++ (a ++ closingMark ++ s) = '/' :: '*' :: (a ++ closingMark ++ s) := rfl
  rw [hopen, hiddenLength_block, commentLength_of_first s ha Bool.noConfusion, Option.map_some]
  simp [closingMark]

end HeaderProbe
