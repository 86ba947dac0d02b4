import HeaderProbe.Proofs.Tree.Entry

namespace HeaderProbe.Tree

variable {t : Tree} {l m : Location} {path : Text} {content : List UInt8}

theorem walk_append (l : Location) (ps qs : List Text) :
    t.walk l (ps ++ qs) = (t.walk l ps).bind fun m => t.walk m qs := by
  induction ps generalizing l with
  | nil => rfl
  | cons p ps ih =>
    simp only [List.cons_append, walk, ih]
    split
    · rfl
    · split
      · rfl
      · split
        · rfl
        · split <;> rfl

theorem walk_of_not_directory (h : t.entry? l ≠ some .directory) (p : Text) (ps : List Text) :
    t.walk l (p :: ps) = .error .missing := by
  rw [walk, if_pos h]

structure DifferInFiles (changed : List Location) (t u : Tree) : Prop where
  current : t.current = u.current
  elsewhere : ∀ l, l ∉ changed → t.entry? l = u.entry? l
  files : ∀ l ∈ changed, t.entry? l ≠ some .directory ∧ u.entry? l ≠ some .directory

def Avoids (t : Tree) (root : Text) (files : List Text) (places : List Location) : Prop :=
  ∀ p ∈ files, ∀ m ∈ places, t.locate (Path.join root p) ≠ .ok m

instance (t : Tree) (root : Text) (files : List Text) (places : List Location) :
    Decidable (t.Avoids root files places) :=
  inferInstanceAs (Decidable (∀ p ∈ files, ∀ m ∈ places, t.locate (Path.join root p) ≠ .ok m))

theorem differInFiles_self {changed : List Location}
    (h : ∀ l ∈ changed, t.entry? l ≠ some .directory) : DifferInFiles changed t t :=
  ⟨rfl, fun _ _ => rfl, fun l hl => ⟨h l hl, h l hl⟩⟩

theorem differInFiles_set (h : t.entry? m ≠ some .directory) (content : List UInt8) :
    DifferInFiles [m] t (t.set m (.file content)) where
  current := rfl
  elsewhere l hl := (entry?_set_of_ne (by simpa using hl)).symm
  files l hl := by
    obtain rfl := List.mem_singleton.1 hl
    rw [entry?_set_self (ne_nil_of_not_directory h)]
    exact ⟨h, by simp⟩

theorem differInFiles_unlink (h : t.entry? m ≠ some .directory) :
    DifferInFiles [m] t (t.unlink m) where
  current := rfl
  elsewhere l hl := (entry?_unlink_of_ne (by simpa using hl)).symm
  files l hl := by
    obtain rfl := List.mem_singleton.1 hl
    rw [entry?_unlink_self (ne_nil_of_not_directory h)]
    exact ⟨h, by simp⟩

namespace DifferInFiles

variable {u : Tree} {changed : List Location}

theorem walk_eq_or (h : DifferInFiles changed t u) (l : Location) (ps : List Text) :
    t.walk l ps = u.walk l ps ∨
      ∃ m ∈ changed, t.walk l ps = .ok m ∨ u.walk l ps = .ok m := by
  induction ps generalizing l with
  | nil => exact .inl rfl
  | cons p ps ih =>
    by_cases hl : l ∈ changed
    · rw [walk_of_not_directory (h.files l hl).1, walk_of_not_directory (h.files l hl).2]
      exact .inl rfl
    · simp only [walk, h.elsewhere l hl]
      split
      · exact .inl rfl
      · split
        · exact ih _
        · split
          · exact .inl rfl
          · by_cases hp : l ++ [p] ∈ changed
            · cases ps with
              | nil =>
                cases ht : t.entry? (l ++ [p]) with
                | none =>
                  cases hu : u.entry? (l ++ [p]) with
                  | none => exact .inl rfl
                  | some e => exact .inr ⟨_, hp, .inr rfl⟩
                | some e => exact .inr ⟨_, hp, .inl rfl⟩
              | cons q qs =>
                rw [walk_of_not_directory (h.files _ hp).1, walk_of_not_directory (h.files _ hp).2,
                  ite_self, ite_self]
                exact .inl rfl
            · rw [h.elsewhere _ hp]
              split
              · exact .inl rfl
              · exact ih _

theorem bytes?_eq (h : DifferInFiles changed t u) (ht : ∀ m ∈ changed, t.locate path ≠ .ok m)
    (hu : ∀ m ∈ changed, u.locate path ≠ .ok m) : t.bytes? path = u.bytes? path := by
  have hbase : t.base path = u.base path := by rw [base, base, h.current]
  have hlocate : t.locate path = u.locate path := by
    simp only [locate, hbase] at ht hu ⊢
    split
    · rfl
    · split
      · rfl
      · simp only [*] at ht hu
        rcases h.walk_eq_or (u.base path) (Path.steps path) with hsame | ⟨m, hm, hwalk | hwalk⟩
        · exact hsame
        · exact absurd hwalk (ht m hm)
        · exact absurd hwalk (hu m hm)
  rw [hlocate] at ht
  simp only [bytes?, find?, hlocate]
  cases hl : u.locate path with
  | error fault => rfl
  | ok l =>
    have hl : l ∉ changed := fun hmem => ht l hmem hl
    simp only [h.elsewhere l hl]

end DifferInFiles

theorem walk_set_of_ok (h : t.entry? m ≠ some .directory) {k : Location} {ps : List Text}
    (hk : t.walk l ps = .ok k) : (t.set m (.file content)).walk l ps = .ok k := by
  induction ps generalizing l with
  | nil => exact hk
  | cons p ps ih =>
    simp only [walk] at hk ⊢
    split at hk
    · cases hk
    · next hdir =>
      have hl : l ≠ m := by
        rintro rfl
        exact hdir h
      rw [entry?_set_of_ne hl, if_neg hdir]
      split at hk
      · next hup =>
        rw [if_pos hup]
        exact ih hk
      · next hup =>
        rw [if_neg hup]
        split at hk
        · cases hk
        · next hlong =>
          rw [if_neg hlong]
          split at hk
          · cases hk
          · next hsome =>
            rw [if_neg, ih hk]
            by_cases hp : l ++ [p] = m
            · subst hp
              simp [entry?_set_self]
            · rwa [entry?_set_of_ne hp]

theorem bytes?_set_of_vacant (h : t.entry? m = none)
    (hpath : (t.set m (.file content)).locate path ≠ .ok m) :
    (t.set m (.file content)).bytes? path = t.bytes? path := by
  have hfile : t.entry? m ≠ some .directory := by simp [h]
  have hold : t.locate path ≠ .ok m := by
    intro hm
    apply hpath
    unfold locate at hm ⊢
    split at hm
    · cases hm
    · next hplain =>
      split at hm
      · cases hm
      · next hshort =>
        rw [if_neg hplain, if_neg hshort]
        exact walk_set_of_ok hfile hm
  refine ((differInFiles_set hfile content).bytes?_eq ?_ ?_).symm
  · simpa using hold
  · simpa using hpath

end HeaderProbe.Tree
