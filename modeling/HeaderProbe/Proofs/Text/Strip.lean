import Mathlib.Data.List.DropRight

namespace HeaderProbe

variable {α β : Type}

theorem eq_take_append_drop_of_getElem? {l : List α} {n : Nat} {a : α} (h : l[n]? = some a) :
    l = l.take n ++ a :: l.drop (n + 1) := by
  obtain ⟨hlt, ha⟩ := List.getElem?_eq_some_iff.1 h
  rw [← ha, List.getElem_cons_drop, List.take_append_drop]

theorem exists_append_of_getElem? {l : List α} {n : Nat} {a : α} (h : l[n]? = some a) :
    ∃ s r, l = s ++ a :: r ∧ s.length = n :=
  ⟨l.take n, l.drop (n + 1), eq_take_append_drop_of_getElem? h,
    List.length_take_of_le (Nat.le_of_lt (List.getElem?_eq_some_iff.1 h).1)⟩

def strip (p : α → Bool) (l : List α) : List α :=
  (l.dropWhile p).rdropWhile p

theorem strip_map (f : α → β) (p : β → Bool) (l : List α) :
    strip p (l.map f) = (strip (p ∘ f) l).map f := by
  simp only [strip, List.rdropWhile, List.dropWhile_map, ← List.map_reverse]

theorem drop_takeWhile (p : α → Bool) (l : List α) :
    l.drop (l.takeWhile p).length = l.dropWhile p := by
  have h := congrArg (List.drop (l.takeWhile p).length)
    (List.takeWhile_append_dropWhile (p := p) (l := l))
  rw [List.drop_left] at h
  exact h.symm

theorem strip_eq_take (p : α → Bool) (l : List α) :
    strip p l = (l.drop (l.takeWhile p).length).take (strip p l).length := by
  rw [drop_takeWhile]
  exact List.prefix_iff_eq_take.1 (List.rdropWhile_prefix p _)

theorem length_takeWhile_add_strip_le (p : α → Bool) (l : List α) :
    (l.takeWhile p).length + (strip p l).length ≤ l.length := by
  have hstrip := (List.rdropWhile_prefix p (l.dropWhile p)).length_le
  have hsplit := congrArg List.length (List.takeWhile_append_dropWhile (p := p) (l := l))
  rw [List.length_append] at hsplit
  rw [strip]
  omega

theorem dropWhile_append_of_neg {p : α → Bool} {l : List α} {a : α} (ha : p a = false)
    (r : List α) : (l ++ a :: r).dropWhile p = l.dropWhile p ++ a :: r := by
  induction l with
  | nil => simp [ha]
  | cons b l ih =>
    simp only [List.cons_append, List.dropWhile_cons]
    split
    · exact ih
    · rfl

theorem head?_strip (p : α → Bool) (l : List α) : (strip p l).head? = (l.dropWhile p).head? := by
  have hhead := List.head?_dropWhile_not p l
  unfold strip List.rdropWhile
  cases h : l.dropWhile p with
  | nil => rfl
  | cons a r =>
    have ha : p a = false := by simpa [h] using hhead
    rw [List.reverse_cons, dropWhile_append_of_neg ha]
    simp

theorem getLast?_strip (p : α → Bool) (l : List α) :
    (strip p l).getLast? = ((l.dropWhile p).reverse.dropWhile p).head? :=
  List.getLast?_reverse

theorem neg_of_edge_strip {p : α → Bool} {l : List α} {a : α}
    (h : (strip p l).head? = some a ∨ (strip p l).getLast? = some a) : p a = false := by
  rw [head?_strip, getLast?_strip] at h
  rcases h with h | h
  · simpa [h] using List.head?_dropWhile_not p l
  · simpa [h] using List.head?_dropWhile_not p (l.dropWhile p).reverse

theorem dropWhile_eq_of_imp {p q : α → Bool} (hpq : ∀ a, p a = true → q a = true) {l : List α}
    (h : ∀ a, (l.dropWhile p).head? = some a → q a = false) : l.dropWhile q = l.dropWhile p := by
  induction l with
  | nil => rfl
  | cons a l ih =>
    simp only [List.dropWhile_cons] at h ⊢
    cases hp : p a with
    | true =>
      simp only [hp, if_true] at h
      simp only [hpq a hp, if_true]
      exact ih h
    | false =>
      simp only [hp] at h
      rw [if_neg (by simpa using h a rfl)]
      rfl

theorem length_dropWhile_eq_iff {p q : α → Bool} (hpq : ∀ a, p a = true → q a = true)
    {l : List α} : (l.dropWhile q).length = (l.dropWhile p).length ↔
      ∀ a, (l.dropWhile p).head? = some a → q a = false := by
  refine ⟨fun h => ?_, fun h => by rw [dropWhile_eq_of_imp hpq h]⟩
  induction l with
  | nil => simp
  | cons b l ih =>
    simp only [List.dropWhile_cons] at h ⊢
    cases hp : p b with
    | true =>
      simp only [hp, hpq b hp, if_true] at h ⊢
      exact ih h
    | false =>
      cases hq : q b with
      | false => simp [hq]
      | true =>
        have := List.length_dropWhile_le q l
        simp only [hp, hq, if_true, Bool.false_eq_true, if_false, List.length_cons] at h
        omega

theorem length_strip_eq_iff {p q : α → Bool} (hpq : ∀ a, p a = true → q a = true) {l : List α} :
    (l.dropWhile q).length = (l.dropWhile p).length ∧ (strip q l).length = (strip p l).length ↔
      ∀ a, (strip p l).head? = some a ∨ (strip p l).getLast? = some a → q a = false := by
  rw [length_dropWhile_eq_iff hpq, head?_strip, getLast?_strip]
  have hlast (h : l.dropWhile q = l.dropWhile p) :
      (strip q l).length = (strip p l).length ↔
        ∀ a, ((l.dropWhile p).reverse.dropWhile p).head? = some a → q a = false := by
    rw [strip, strip, h, List.rdropWhile, List.rdropWhile, List.length_reverse, List.length_reverse,
      length_dropWhile_eq_iff hpq]
  constructor
  · rintro ⟨hfirst, hlength⟩ a (ha | ha)
    · exact hfirst a ha
    · exact (hlast (dropWhile_eq_of_imp hpq hfirst)).1 hlength a ha
  · intro h
    have hfirst := fun a ha => h a (.inl ha)
    exact ⟨hfirst, (hlast (dropWhile_eq_of_imp hpq hfirst)).2 fun a ha => h a (.inr ha)⟩

end HeaderProbe
