import HeaderProbe.Text.Blank
import HeaderProbe.Proofs.Text.Strip

namespace HeaderProbe.Text

def AllBlank (s : Text) : Prop :=
  ∀ c ∈ s, isBlank c = true

instance (s : Text) : Decidable (AllBlank s) :=
  decidable_of_iff (s.all isBlank = true) List.all_eq_true

theorem allBlank_nil : AllBlank [] := by
  simp [AllBlank]

theorem allBlank_space : AllBlank [' '] := by
  simp [AllBlank, isBlank]

theorem AllBlank.reverse {w : Text} (hw : AllBlank w) : AllBlank w.reverse :=
  fun c hc => hw c (List.mem_reverse.1 hc)

theorem allBlank_of_skipBlanks {s : Text} (hs : skipBlanks s = []) : AllBlank s :=
  List.dropWhile_eq_nil_iff.1 hs

theorem allBlank_takeWhile (s : Text) : AllBlank (s.takeWhile isBlank) :=
  fun _ hc => List.all_eq_true.1 List.all_takeWhile _ hc

theorem skipBlanks_append {w : Text} (hw : AllBlank w) (s : Text) :
    skipBlanks (w ++ s) = skipBlanks s :=
  List.dropWhile_append_of_pos hw

theorem skipBlanks_cons {c : Char} (hc : isBlank c = false) (r : Text) :
    skipBlanks (c :: r) = c :: r := by
  simp [skipBlanks, hc]

theorem takeWhile_append_skipBlanks (s : Text) : s.takeWhile isBlank ++ skipBlanks s = s :=
  List.takeWhile_append_dropWhile

theorem skipBlanks_suffix (s : Text) : skipBlanks s <:+ s :=
  List.dropWhile_suffix isBlank

theorem length_skipBlanks_le_of_suffix {s r : Text} (h : s <:+ r) :
    (skipBlanks s).length ≤ (skipBlanks r).length := by
  obtain ⟨u, rfl⟩ := h
  rw [skipBlanks, skipBlanks, List.dropWhile_append]
  split
  · exact Nat.le_refl _
  · rw [List.length_append]
    exact Nat.le_add_left_of_le (skipBlanks_suffix s).length_le

theorem length_skipBlanks_append_le (s w : Text) :
    (skipBlanks (s ++ w)).length ≤ (skipBlanks s).length + w.length := by
  rw [skipBlanks, skipBlanks, List.dropWhile_append]
  split
  · exact Nat.le_add_left_of_le (skipBlanks_suffix w).length_le
  · rw [List.length_append]

theorem isBlank_of_skipBlanks {s r : Text} {c : Char} (h : skipBlanks s = c :: r) :
    isBlank c = false := by
  have := List.head?_dropWhile_not isBlank s
  rw [← skipBlanks, h] at this
  simpa using this

theorem skipBlanks_eq_cons_iff {s r : Text} {c : Char} :
    skipBlanks s = c :: r ↔ isBlank c = false ∧ ∃ w, AllBlank w ∧ s = w ++ c :: r := by
  constructor
  · intro h
    refine ⟨isBlank_of_skipBlanks h, s.takeWhile isBlank, allBlank_takeWhile s, ?_⟩
    rw [← h, takeWhile_append_skipBlanks]
  · rintro ⟨hc, w, hw, rfl⟩
    rw [skipBlanks_append hw, skipBlanks_cons hc]

theorem skipBlanks_append_cons {c : Char} (hc : isBlank c = false) (s r : Text) :
    skipBlanks (s ++ c :: r) = skipBlanks s ++ c :: r :=
  dropWhile_append_of_neg hc r

theorem skipBlanks_append_of_cons {s r : Text} {c : Char} (h : skipBlanks s = c :: r) (b : Text) :
    skipBlanks (s ++ b) = c :: (r ++ b) := by
  obtain ⟨hc, w, hw, rfl⟩ := skipBlanks_eq_cons_iff.1 h
  rw [List.append_assoc, skipBlanks_append hw, List.cons_append, skipBlanks_cons hc]

theorem exists_of_trimEnd (s : Text) : ∃ gap, AllBlank gap ∧ s = trimEnd s ++ gap := by
  refine ⟨(s.reverse.takeWhile isBlank).reverse, (allBlank_takeWhile s.reverse).reverse, ?_⟩
  rw [trimEnd, ← List.reverse_append, List.takeWhile_append_dropWhile, List.reverse_reverse]

theorem trimEnd_append {s w : Text} {c : Char} (hc : s.getLast? = some c) (hblank : isBlank c = false)
    (hw : AllBlank w) : trimEnd (s ++ w) = s := by
  obtain ⟨r, rfl⟩ := List.getLast?_eq_some_iff.1 hc
  rw [trimEnd, List.reverse_append, List.dropWhile_append_of_pos hw.reverse, List.reverse_concat,
    List.dropWhile_cons_of_neg (by simp [hblank]), ← List.reverse_concat, List.reverse_reverse]

theorem pastOptionalBlanks_eq {α : Type} {p : Text → Option α}
    (hp : ∀ c r, isBlank c = true → p (c :: r) = none) (s : Text) :
    pastOptionalBlanks p s = p (skipBlanks s) := by
  induction s with
  | nil => rfl
  | cons c r ih =>
    cases hc : isBlank c with
    | true =>
      have hskip : skipBlanks (c :: r) = skipBlanks r := by simp [skipBlanks, hc]
      rw [hskip, ← ih]
      simp [pastOptionalBlanks, pastBlanks, hc, hp c r hc]
    | false => simp [pastOptionalBlanks, pastBlanks, hc, skipBlanks]

theorem exists_of_pastBlanks {α : Type} {p : Text → Option α} {s : Text} {a : α}
    (h : pastBlanks p s = some a) :
    ∃ c w r, s = c :: w ++ r ∧ AllBlank (c :: w) ∧ p r = some a := by
  induction s with
  | nil => cases h
  | cons c s ih =>
    simp only [pastBlanks] at h
    split at h
    · next hc =>
      rcases Option.or_eq_some_iff.1 h with h | ⟨-, h⟩
      · obtain ⟨d, w, r, rfl, hw, hr⟩ := ih h
        exact ⟨c, d :: w, r, rfl, List.forall_mem_cons.2 ⟨hc, hw⟩, hr⟩
      · exact ⟨c, [], s, rfl, by simpa [AllBlank] using hc, h⟩
    · cases h

theorem isSome_pastBlanks_iff {α : Type} {p : Text → Option α} {s : Text} :
    (pastBlanks p s).isSome = true ↔
      ∃ w r, w ≠ [] ∧ AllBlank w ∧ s = w ++ r ∧ (p r).isSome = true := by
  constructor
  · intro h
    obtain ⟨a, ha⟩ := Option.isSome_iff_exists.1 h
    obtain ⟨c, w, r, rfl, hw, hr⟩ := exists_of_pastBlanks ha
    exact ⟨c :: w, r, List.cons_ne_nil c w, hw, rfl, by rw [hr]; rfl⟩
  · rintro ⟨w, r, hne, hw, rfl, hr⟩
    induction w with
    | nil => exact absurd rfl hne
    | cons c w ih =>
      obtain ⟨hc, hw⟩ := List.forall_mem_cons.1 hw
      rw [List.cons_append, pastBlanks, if_pos hc, Option.isSome_or, Bool.or_eq_true]
      cases w with
      | nil => exact .inr hr
      | cons d w => exact .inl (ih (List.cons_ne_nil d w) hw)

theorem pastBlanks_eq_some_iff {α : Type} {p : Text → Option α}
    (hp : ∀ c r, isBlank c = true → p (c :: r) = none) {s : Text} {a : α} :
    pastBlanks p s = some a ↔ ∃ w r, w ≠ [] ∧ AllBlank w ∧ s = w ++ r ∧ p r = some a := by
  constructor
  · intro h
    obtain ⟨c, w, r, rfl, hw, hr⟩ := exists_of_pastBlanks h
    exact ⟨c :: w, r, List.cons_ne_nil c w, hw, rfl, hr⟩
  · rintro ⟨w, r, hne, hw, rfl, hr⟩
    obtain ⟨c, w, rfl⟩ := List.exists_cons_of_ne_nil hne
    obtain ⟨hc, hw⟩ := List.forall_mem_cons.1 hw
    have hskip : skipBlanks r = r := by
      cases r with
      | nil => rfl
      | cons d r =>
        refine skipBlanks_cons ?_ r
        by_contra hd
        rw [hp d r (by simpa using hd)] at hr
        cases hr
    have hrest : pastOptionalBlanks p (w ++ r) = some a := by
      rw [pastOptionalBlanks_eq hp, skipBlanks_append hw, hskip, hr]
    rw [List.cons_append, pastBlanks, if_pos hc]
    exact hrest

structure Cuttable (p : Text → Option Text) : Prop where
  suffix : ∀ {s r}, p s = some r → r <:+ s
  cut : ∀ {a b r}, p (a ++ b) = some (r ++ b) → p a = some r
  extend : ∀ {a} (b), p a ≠ none → p (a ++ b) ≠ none

theorem cuttable_of_iff {p : Text → Option Text} {P : Text → Prop}
    (h : ∀ s r, p s = some r ↔ ∃ u, P u ∧ s = u ++ r) : Cuttable p where
  suffix hs := by
    obtain ⟨u, -, rfl⟩ := (h _ _).1 hs
    exact List.suffix_append u _
  cut hs := by
    obtain ⟨u, hu, hs⟩ := (h _ _).1 hs
    rw [← List.append_assoc, List.append_cancel_right_eq] at hs
    exact (h _ _).2 ⟨u, hu, hs⟩
  extend b ha := by
    obtain ⟨r, hr⟩ := Option.ne_none_iff_exists'.1 ha
    obtain ⟨u, hu, rfl⟩ := (h _ _).1 hr
    rw [(h _ (r ++ b)).2 ⟨u, hu, by rw [List.append_assoc]⟩]
    simp

theorem pastBlanks_suffix {p : Text → Option Text} (hp : Cuttable p) {s r : Text}
    (h : pastBlanks p s = some r) : ∃ c s', s = c :: s' ∧ r <:+ s' := by
  obtain ⟨c, w, r', rfl, -, hr⟩ := exists_of_pastBlanks h
  exact ⟨c, w ++ r', rfl, (hp.suffix hr).trans (List.suffix_append w r')⟩

theorem pastBlanks_append_ne_none {p : Text → Option Text} (hp : Cuttable p) {a : Text} (b : Text)
    (h : pastBlanks p a ≠ none) : pastBlanks p (a ++ b) ≠ none := by
  induction a with
  | nil => exact absurd rfl h
  | cons c r ih =>
    simp only [List.cons_append, pastBlanks] at h ⊢
    split at h
    · next hc =>
      rw [if_pos hc]
      simp only [ne_eq, Option.or_eq_none_iff, not_and_or] at h ⊢
      rcases h with h | h
      · exact .inl (ih h)
      · exact .inr (hp.extend b h)
    · exact absurd rfl h

theorem pastBlanks_cut {p : Text → Option Text} (hp : Cuttable p) {a b r : Text}
    (h : pastBlanks p (a ++ b) = some (r ++ b)) : pastBlanks p a = some r := by
  induction a with
  | nil =>
    obtain ⟨c, s, hs, hr⟩ := pastBlanks_suffix hp h
    have := hr.length_le
    simp only [List.nil_append] at hs
    simp only [hs, List.length_append, List.length_cons] at this
    omega
  | cons c a ih =>
    simp only [List.cons_append, pastBlanks] at h ⊢
    split at h
    · next hc =>
      rw [if_pos hc]
      rcases Option.or_eq_some_iff.1 h with h | ⟨hn, h⟩
      · rw [ih h, Option.some_or]
      · have hn' : pastBlanks p a = none := by
          by_contra hs
          exact pastBlanks_append_ne_none hp b hs hn
        rw [hn', Option.none_or, hp.cut h]
    · cases h

theorem Cuttable.pastBlanks {p : Text → Option Text} (hp : Cuttable p) :
    Cuttable (Text.pastBlanks p) where
  suffix h := by
    obtain ⟨c, s', rfl, hr⟩ := pastBlanks_suffix hp h
    exact hr.trans (List.suffix_cons c s')
  cut := pastBlanks_cut hp
  extend := pastBlanks_append_ne_none hp

end HeaderProbe.Text
