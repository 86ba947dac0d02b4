import HeaderProbe.Tree.Basic
import Mathlib.Data.List.Basic

namespace HeaderProbe.Tree

variable {t : Tree} {l m : Location} {e : Entry}

theorem lookup_filter_ne {es : List (Location × Entry)} (h : m ≠ l) :
    (es.filter (·.1 ≠ l)).lookup m = es.lookup m := by
  induction es with
  | nil => rfl
  | cons x es ih =>
    obtain ⟨k, f⟩ := x
    by_cases hk : k = l
    · subst hk
      have hm : (m == k) = false := by simpa using h
      simpa [List.lookup_cons, hm] using ih
    · rw [List.filter_cons_of_pos (by simpa using hk), List.lookup_cons, List.lookup_cons, ih]

theorem entry?_set_self (hl : l ≠ []) : entry? (t.set l e) l = some e := by
  simp [set, entry?, hl]

theorem entry?_set_of_ne (h : m ≠ l) : entry? (t.set l e) m = t.entry? m := by
  have hb : (m == l) = false := by simpa using h
  simp only [set, entry?, List.lookup_cons, hb, lookup_filter_ne h]

theorem set_set (f : Entry) : (t.set l e).set l f = t.set l f := by
  simp [set]

theorem unlink_set : (t.set l e).unlink l = t.unlink l := by
  simp [set, unlink]

theorem entry?_unlink_self (hl : l ≠ []) : entry? (t.unlink l) l = none := by
  rw [ entry?, if_neg hl, List.lookup_eq_none_iff]
  intro x hx
  have hne : x.1 ≠ l := by simpa using (List.mem_filter.1 hx).2
  simpa using hne.symm

theorem entry?_unlink_of_ne (h : m ≠ l) : entry? (t.unlink l) m = t.entry? m := by
  simp only [unlink, entry?, lookup_filter_ne h]

theorem ne_nil_of_not_directory (h : t.entry? l ≠ some .directory) : l ≠ [] := by
  rintro rfl
  exact h rfl

theorem ne_nil_of_vacant (h : t.entry? l = none) : l ≠ [] :=
  ne_nil_of_not_directory (t := t) (by simp [h])

theorem unlink_of_vacant (h : t.entry? l = none) : t.unlink l = t := by
  unfold entry? at h
  rw [if_neg (ne_nil_of_vacant h), List.lookup_eq_none_iff] at h
  have : t.entries.filter (·.1 ≠ l) = t.entries :=
    List.filter_eq_self.2 fun x hx => decide_eq_true (Ne.symm (bne_iff_ne.1 (h x hx)))
  rw [unlink, this]

theorem move_set (h : t.entry? l = none) : (t.set l e).move l m = t.set m e := by
  rw [move, entry?_set_self (ne_nil_of_vacant h), unlink_set, unlink_of_vacant h]

end HeaderProbe.Tree
