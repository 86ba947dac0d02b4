import HeaderProbe.Text.ShellWords
import Mathlib.Data.List.Basic

namespace HeaderProbe.ShellWords

theorem isPlain_of_eq {c : Char} (hc : isSeparator c = true ∨ c = '\\' ∨ c = '\x27' ∨ c = '"') :
    isPlain c = false := by
  simp only [isSeparator, Bool.or_eq_true, beq_iff_eq] at hc
  rcases hc with (((rfl | rfl) | rfl) | rfl) | rfl | rfl | rfl <;> rfl

theorem splitFrom_plain {c : Char} (hc : isPlain c = true) (word : Option Text) (s : Text) :
    splitFrom .bare word (c :: s) = splitFrom .bare (some (c :: word.getD [])) s := by
  have hne {P : Prop} (h : P → isPlain c = false) : ¬ P := by
    intro hP
    rw [h hP] at hc
    cases hc
  have hsep : isSeparator c = false := by
    simpa using hne fun h => isPlain_of_eq (.inl h)
  have hescape : c ≠ '\\' := hne fun h => isPlain_of_eq (.inr (.inl h))
  have hsingle : c ≠ '\x27' := hne fun h => isPlain_of_eq (.inr (.inr (.inl h)))
  have hdouble : c ≠ '"' := hne fun h => isPlain_of_eq (.inr (.inr (.inr h)))
  rw [splitFrom, if_neg (by simp [hsep]), if_neg hescape, if_neg hsingle, if_neg hdouble]

theorem splitFrom_plain_append {w : Text} (hw : ∀ c ∈ w, isPlain c = true) (v s : Text) :
    splitFrom .bare (some v) (w ++ s) = splitFrom .bare (some (w.reverse ++ v)) s := by
  induction w generalizing v with
  | nil => rfl
  | cons c w ih =>
    obtain ⟨hc, hw⟩ := List.forall_mem_cons.1 hw
    rw [List.cons_append, splitFrom_plain hc, ih hw]
    simp

theorem splitFrom_single_append (w v s : Text) :
    splitFrom .single (some v)
        (w.flatMap (fun c => if c = '\x27' then "'\"'\"'".toList else [c]) ++ '\x27' :: s) =
      splitFrom .bare (some (w.reverse ++ v)) s := by
  induction w generalizing v with
  | nil => simp [splitFrom]
  | cons c w ih =>
    rw [List.flatMap_cons, List.append_assoc]
    by_cases hc : c = '\x27'
    · subst hc
      have hquote (r : Text) : splitFrom .single (some v) ("'\"'\"'".toList ++ r) =
          splitFrom .single (some ('\x27' :: v)) r := by
        simp [splitFrom, isSeparator]
      rw [if_pos rfl, hquote, ih]
      simp
    · rw [if_neg hc, List.singleton_append, splitFrom, if_neg hc, Option.getD_some, ih]
      simp

theorem splitFrom_quote (w s : Text) :
    splitFrom .bare none (quote w ++ s) = splitFrom .bare (some w.reverse) s := by
  unfold quote
  split
  · next hplain =>
    simp only [Bool.and_eq_true, Bool.not_eq_true', List.isEmpty_eq_false_iff, List.all_eq_true] at hplain
    obtain ⟨hne, hall⟩ := hplain
    obtain ⟨c, w, rfl⟩ := List.exists_cons_of_ne_nil hne
    obtain ⟨hc, hall⟩ := List.forall_mem_cons.1 hall
    rw [List.cons_append, splitFrom_plain hc, splitFrom_plain_append hall]
    simp
  · have hopen (r : Text) : splitFrom .bare none ('\x27' :: r) = splitFrom .single (some []) r := by
      simp [splitFrom, isSeparator]
    rw [List.append_assoc, List.cons_append, hopen, List.singleton_append, splitFrom_single_append]
    simp

theorem split_quote (w : Text) : split (quote w) = .ok [w] := by
  have h := splitFrom_quote w []
  rw [List.append_nil] at h
  rw [split, h]
  simp [splitFrom]

theorem split_quote_append (w s : Text) : split (quote w ++ ' ' :: s) = (split s).map (w :: ·) := by
  have hspace : isSeparator ' ' = true := rfl
  rw [split, splitFrom_quote, splitFrom, if_pos hspace]
  simp [split]

theorem split_join (words : List Text) : split (join words) = .ok words := by
  unfold join
  induction words with
  | nil => rfl
  | cons w words ih =>
    cases words with
    | nil =>
      rw [List.map_singleton, List.intercalate_singleton]
      exact split_quote w
    | cons v words =>
      rw [List.map_cons, List.map_cons, List.intercalate_cons_cons, List.append_assoc,
        List.singleton_append, split_quote_append, ← List.map_cons, ih]
      rfl

end HeaderProbe.ShellWords
