import HeaderProbe.Proofs.Source.BracketPair
import HeaderProbe.Proofs.Text.Blank
import HeaderProbe.Source.Member
import Mathlib.Data.List.Infix

namespace HeaderProbe

open Text

@[simp] theorem parenDepth_nil : parenDepth [] = 0 :=
  rfl

@[simp] theorem parenDepth_append (s r : Text) : parenDepth (s ++ r) = parenDepth s + parenDepth r :=
  Bracket.excess_append s r

theorem parenDepth_cons (c : Char) (s : Text) :
    parenDepth (c :: s) = (if c = '(' then 1 else if c = ')' then -1 else 0) + parenDepth s := by
  simp only [parenDepth, List.count_cons, beq_iff_eq]
  split
  · next hc =>
    subst hc
    simp
    omega
  · split <;> simp
    omega

@[simp] theorem parenDepth_open (s : Text) : parenDepth ('(' :: s) = 1 + parenDepth s :=
  parenDepth_cons '(' s

@[simp] theorem parenDepth_close (s : Text) : parenDepth (')' :: s) = -1 + parenDepth s :=
  parenDepth_cons ')' s

theorem parenDepth_of_not_mem {s : Text} (hopen : '(' ∉ s) (hclose : ')' ∉ s) : parenDepth s = 0 := by
  simp [parenDepth, List.count_eq_zero_of_not_mem hopen, List.count_eq_zero_of_not_mem hclose]

theorem parenDepth_of_allBlank {w : Text} (hw : AllBlank w) : parenDepth w = 0 :=
  parenDepth_of_not_mem (fun h => by cases hw _ h) (fun h => by cases hw _ h)

theorem parenDepth_skipBlanks (s : Text) : parenDepth (skipBlanks s) = parenDepth s := by
  conv_rhs => rw [← takeWhile_append_skipBlanks s]
  rw [parenDepth_append, parenDepth_of_allBlank (allBlank_takeWhile s), Int.zero_add]

def StaysOpen (s : Text) : Prop :=
  ∀ u ∈ s.inits, 0 ≤ parenDepth u

instance (s : Text) : Decidable (StaysOpen s) :=
  inferInstanceAs (Decidable (∀ u ∈ s.inits, 0 ≤ parenDepth u))

def Balanced (s : Text) : Prop :=
  StaysOpen s ∧ parenDepth s = 0

instance (s : Text) : Decidable (Balanced s) :=
  inferInstanceAs (Decidable (StaysOpen s ∧ parenDepth s = 0))

theorem StaysOpen.depth_nonneg {s u v : Text} (h : StaysOpen s) (hs : s = u ++ v) :
    0 ≤ parenDepth u :=
  h u ((List.mem_inits u s).2 ⟨v, hs.symm⟩)

theorem balanced_nil : Balanced [] := by
  decide

namespace Bracket

theorem balanced_iff_paired {s : Text} : Balanced s ↔ Paired '(' ')' s := by
  constructor
  · rintro ⟨hopen, hzero⟩
    exact ⟨hzero, fun x y hs => hopen.depth_nonneg hs⟩
  · rintro ⟨hzero, hnonneg⟩
    refine ⟨fun x hx => ?_, hzero⟩
    obtain ⟨y, hs⟩ := (List.mem_inits x s).1 hx
    exact hnonneg x y hs.symm

theorem afterClose_eq_some_iff {s r : Text} :
    paren.afterClose ('(' :: s) = some r ↔ ∃ a, Balanced a ∧ s = a ++ ')' :: r := by
  simp only [balanced_iff_paired]
  exact afterClose_eq_some_iff_paired (b := .paren)

theorem afterClose_of_balanced {s : Text} (hs : Balanced s) (r : Text) :
    paren.afterClose ('(' :: (s ++ ')' :: r)) = some r :=
  afterClose_eq_some_iff.2 ⟨s, hs, rfl⟩

theorem beforeOpen_eq_some_iff {s r : Text} :
    paren.beforeOpen (')' :: s) = some r ↔ ∃ a, Balanced a ∧ s = a.reverse ++ '(' :: r := by
  simp only [balanced_iff_paired]
  exact beforeOpen_eq_some_iff_paired (b := .paren)

end Bracket

end HeaderProbe
