import HeaderProbe.Pattern.Match

namespace HeaderProbe.Pattern

def Node.isUncaptured : Node → Bool
  | seq a b => a.isUncaptured && b.isUncaptured
  | either a b => a.isUncaptured && b.isUncaptured
  | repeated _ _ _ body => body.isUncaptured
  | group body => body.isUncaptured
  | capture .. => false
  | ifCaptured _ yes no => yes.isUncaptured && no.isUncaptured
  | ahead _ body => body.isUncaptured
  | behind _ body => body.isUncaptured
  | atomic body => body.isUncaptured
  | _ => true

def State.Unmarked (s : State) : Prop :=
  s.marks = #[]

def Result.Unmarked : Result → Prop
  | matched s => s.Unmarked
  | failed s => s.Unmarked

def MarksNothing (next : State → Result) : Prop :=
  ∀ s : State, s.Unmarked → (next s).Unmarked

def Step.IsMarkless (step : Step) : Prop :=
  ∀ next, MarksNothing next → MarksNothing (step.run next)

theorem marksNothing_accept : MarksNothing State.accept :=
  fun _ h => h

theorem Result.Unmarked.fold {r : Result} {onMatch onFailure : State → Result} :
    r.Unmarked → MarksNothing onMatch → MarksNothing onFailure →
      Result.Unmarked (match r with
        | .matched e => onMatch e
        | .failed f => onFailure f) := by
  intro h hmatch hfailure
  cases r with
  | matched e => exact hmatch e h
  | failed f => exact hfailure f h

theorem undo_empty (nested : Bool) {m : Marks} (h : m = #[]) : Marks.undo #[] nested m = #[] := by
  subst h
  cases nested <;> rfl

theorem unmarked_undo (nested : Bool) {s f : State} (hs : s.Unmarked) (hf : f.Unmarked)
    (spot choice : Nat) :
    State.Unmarked ⟨spot, choice, s.marks.undo nested f.marks⟩ := by
  rw [State.Unmarked] at hs ⊢
  simp only [hs]
  exact undo_empty nested hf

section

variable {next : State → Result} {body : Step} {text : Array Char} {nested : Bool} {t : CharTest}
  {expected : Option CharTest}

theorem marksNothing_orHere (h : MarksNothing next) : MarksNothing (orHere next) := by
  intro s hs
  refine (h s hs).fold ?_ ?_
  · exact fun _ he => he
  · exact fun _ hf => hf

theorem marksNothing_tryAt (h : MarksNothing next) (spot : Nat) :
    MarksNothing (tryAt nested next spot) := by
  intro s hs
  refine (h { s with spot := spot, choice := spot } hs).fold ?_ ?_
  · exact fun _ he => he
  · exact fun f hf => unmarked_undo nested hs hf s.spot f.choice

theorem marksNothing_shrink (h : MarksNothing next) (n spot : Nat) :
    MarksNothing (shrink text nested expected next n spot) := by
  induction n generalizing spot with
  | zero =>
    intro s hs
    unfold shrink
    split
    · exact marksNothing_tryAt h spot s hs
    · exact hs
  | succ n ih =>
    intro s hs
    unfold shrink
    split
    · refine (marksNothing_tryAt h spot s hs).fold ?_ (ih (spot - 1))
      exact fun _ he => he
    · exact ih (spot - 1) s hs

theorem marksNothing_stretch (h : MarksNothing next) (last : Option Nat) (left spot : Nat) :
    MarksNothing (stretch t text nested last next left spot) := by
  induction left generalizing spot with
  | zero =>
    intro s hs
    refine (marksNothing_tryAt h spot s hs).fold ?_ ?_
    · exact fun _ he => he
    · exact fun _ hf => hf
  | succ left ih =>
    intro s hs
    refine (marksNothing_tryAt h spot s hs).fold ?_ ?_
    · exact fun _ he => he
    · intro f hf
      split
      · dsimp only
        split
        · exact hf
        · exact ih (spot + 1) _ hf
      · exact hf

theorem unmarked_of_measure (t : CharTest) (text : Array Char) (least : Nat) (most : Option Nat)
    {s : State} (hs : s.Unmarked) :
    (∀ e, t.measure text least most s = .error e → e.Unmarked) ∧
      ∀ p e, t.measure text least most s = .ok (p, e) → e.Unmarked := by
  constructor
  · intro e h
    unfold CharTest.measure at h
    dsimp only at h
    split at h
    · cases h
      exact hs
    · split at h <;> cases h
      exact hs
  · intro p e h
    unfold CharTest.measure at h
    dsimp only at h
    split at h
    · cases h
    · split at h <;> cases h
      exact hs

namespace Step

theorem marksNothing_exactly (hbody : body.IsMarkless) (h : MarksNothing next) (n : Nat) :
    MarksNothing (exactly body n next) := by
  induction n with
  | zero => exact h
  | succ n ih => exact fun s hs => marksNothing_orHere (hbody _ ih) s.choose hs

theorem marksNothing_greedily (hbody : body.IsMarkless) (h : MarksNothing next) (n : Nat)
    (last : Option Nat) : MarksNothing (greedily body next n last) := by
  induction n generalizing last with
  | zero => exact fun s hs => marksNothing_orHere h s.choose hs
  | succ n ih =>
    intro s hs
    unfold greedily
    split
    · exact marksNothing_orHere h s.choose hs
    · refine (hbody _ (ih (some s.spot)) s.choose hs).fold ?_ ?_
      · exact fun _ he => he
      · exact fun _ _ => marksNothing_orHere h s.choose hs

theorem marksNothing_lazily (hbody : body.IsMarkless) (h : MarksNothing next) (n : Nat)
    (last : Option Nat) : MarksNothing (lazily nested body next n last) := by
  induction n generalizing last with
  | zero =>
    intro s hs
    refine (marksNothing_tryAt h s.spot s hs).fold ?_ ?_
    · exact fun _ he => he
    · exact fun _ hf => hf
  | succ n ih =>
    intro s hs
    refine (marksNothing_tryAt h s.spot s hs).fold ?_ ?_
    · exact fun _ he => he
    · intro f hf
      dsimp only
      split
      · exact hf
      · exact marksNothing_orHere (hbody _ (ih (some f.spot))) f.choose hf

theorem marksNothing_firmly (hbody : body.IsMarkless) (n : Nat) : MarksNothing (firmly body n) := by
  induction n with
  | zero => exact fun _ hs => hs
  | succ n ih =>
    intro s hs
    refine (hbody _ marksNothing_accept s hs).fold ih ?_
    exact fun _ hf => hf

theorem unmarked_eagerly (hbody : body.IsMarkless) (n : Nat) {s : State} (hs : s.Unmarked) :
    (eagerly body n s).Unmarked := by
  induction n generalizing s with
  | zero => exact hs
  | succ n ih =>
    have hround := hbody _ marksNothing_accept s hs
    unfold eagerly
    split
    · next e he =>
      rw [he] at hround
      split
      · exact hround
      · exact ih hround
    · exact hs

theorem marksNothing_check (hbody : body.IsMarkless) (h : MarksNothing next) (p : Nat) :
    MarksNothing (check body p next) := by
  intro s hs
  refine (hbody _ marksNothing_accept { s with spot := p, choice := p } hs).fold ?_ ?_
  · exact fun _ he => h _ he
  · exact fun _ hf => hf

theorem marksNothing_checkNot (hbody : body.IsMarkless) (h : MarksNothing next) (p : Nat) :
    MarksNothing (checkNot nested body p next) := by
  intro s hs
  refine (hbody _ marksNothing_accept { s with spot := p, choice := p } hs).fold ?_ ?_
  · exact fun _ he => he
  · exact fun f hf => h _ (unmarked_undo nested hs hf s.spot f.choice)

theorem isMarkless_empty : empty.IsMarkless :=
  fun _ h => h

theorem isMarkless_one : (one text t).IsMarkless := by
  intro next h s hs
  unfold one
  dsimp only
  split
  · exact h _ hs
  · exact hs

theorem isMarkless_anchor (a : Anchor) : (anchor text a).IsMarkless := by
  intro next h s hs
  unfold anchor
  dsimp only
  split
  · exact h _ hs
  · exact hs

variable {a b : Step}

theorem isMarkless_seq (ha : a.IsMarkless) (hb : b.IsMarkless) : (seq a b).IsMarkless :=
  fun next h => ha _ (hb next h)

theorem isMarkless_branch (hbody : body.IsMarkless) (first : Option CharTest) :
    (branch text nested first body).IsMarkless := by
  intro next h s hs
  unfold branch
  dsimp only
  split
  · exact hs
  · exact marksNothing_tryAt (hbody next h) s.spot s hs

theorem isMarkless_either (ha : a.IsMarkless) (hb : b.IsMarkless) : (either a b).IsMarkless := by
  intro next h s hs
  refine (ha next h s hs).fold ?_ (hb next h)
  exact fun _ he => he

theorem isMarkless_characters (greed : Greed) (least : Nat) (most : Option Nat) :
    (characters text t greed least most nested expected).IsMarkless := by
  intro next h s hs
  have hrun (most : Option Nat) := unmarked_of_measure t text least most hs
  unfold characters
  dsimp only
  split
  · split
    · next e he => exact (hrun most).1 e he
    · next p e he => exact marksNothing_shrink h _ p e ((hrun most).2 p e he)
  · split
    · next e he => exact (hrun most).1 e he
    · next p e he => exact h _ ((hrun most).2 p e he)
  · split
    · next e he => exact (hrun (some least)).1 e he
    · next p e he => exact marksNothing_stretch h _ _ p e ((hrun (some least)).2 p e he)

theorem isMarkless_greedy (hbody : body.IsMarkless) (least : Nat) (most : Option Nat) :
    (greedy text least most body).IsMarkless :=
  fun _ h s hs => marksNothing_exactly hbody (marksNothing_greedily hbody h _ none) least s hs

theorem isMarkless_lazy (hbody : body.IsMarkless) (least : Nat) (most : Option Nat) :
    (lazy text nested least most body).IsMarkless :=
  fun _ h s hs => marksNothing_exactly hbody (marksNothing_lazily hbody h _ none) least s hs

theorem isMarkless_possessive (hbody : body.IsMarkless) (least : Nat) (most : Option Nat) :
    (possessive text least most body).IsMarkless := by
  intro next h s hs
  have hrounds := marksNothing_firmly hbody least s.choose hs
  unfold possessive
  dsimp only
  split
  · next f hf =>
    rw [hf] at hrounds
    exact hrounds
  · next e he =>
    rw [he] at hrounds
    exact h _ (unmarked_eagerly hbody _ hrounds)

theorem isMarkless_sameText (group : Nat) (f : Folding) : (sameText text group f).IsMarkless := by
  intro next h s hs
  unfold sameText
  dsimp only
  split
  · exact hs
  · split
    · exact hs
    · exact h _ hs

theorem isMarkless_ifCaptured (ha : a.IsMarkless) (hb : b.IsMarkless) (group : Nat) :
    (ifCaptured group a b).IsMarkless := by
  intro next h s hs
  unfold ifCaptured
  dsimp only
  split
  · exact ha next h s hs
  · exact hb next h s hs

theorem isMarkless_atomic (hbody : body.IsMarkless) : (atomic body).IsMarkless := by
  intro next h s hs
  refine (hbody _ marksNothing_accept s.choose hs).fold h ?_
  exact fun _ hf => hf

theorem isMarkless_ahead (hbody : body.IsMarkless) (negated : Bool) :
    (ahead nested negated body).IsMarkless := by
  intro next h s hs
  cases negated with
  | true => exact marksNothing_checkNot hbody h s.spot s hs
  | false => exact marksNothing_check hbody h s.spot s hs

theorem isMarkless_behind (hbody : body.IsMarkless) (negated : Bool) (width : Nat) :
    (behind nested negated width body).IsMarkless := by
  intro next h s hs
  unfold behind
  dsimp only
  split
  · split
    · exact h s hs
    · exact hs
  · split
    · exact marksNothing_checkNot hbody h _ s hs
    · exact marksNothing_check hbody h _ s hs

end Step

end

open Step in
theorem Node.isMarkless_step {n : Node} (h : n.isUncaptured = true) (text : Array Char)
    (nested : Bool) (expected : Option CharTest) : (n.step text nested expected).IsMarkless := by
  induction n generalizing nested expected with
  | empty => exact isMarkless_empty
  | one t => exact isMarkless_one
  | anchor a => exact isMarkless_anchor a
  | seq a b iha ihb =>
    obtain ⟨ha, hb⟩ := Bool.and_eq_true_iff.1 h
    exact isMarkless_seq (iha ha _ _) (ihb hb _ _)
  | either a b iha ihb =>
    obtain ⟨ha, hb⟩ := Bool.and_eq_true_iff.1 h
    refine isMarkless_either (isMarkless_branch (iha ha _ _) _) ?_
    split
    · exact ihb hb _ _
    · exact isMarkless_branch (ihb hb _ _) _
  | repeated greed least most body ih =>
    unfold Node.step
    split
    · exact isMarkless_characters _ _ _
    · exact isMarkless_greedy (ih h _ _) _ _
    · exact isMarkless_lazy (ih h _ _) _ _
    · exact isMarkless_possessive (ih h _ _) _ _
  | group body ih => exact ih h _ _
  | capture g body => cases h
  | sameText g f w => exact isMarkless_sameText g f
  | ifCaptured g yes no ihyes ihno =>
    obtain ⟨hyes, hno⟩ := Bool.and_eq_true_iff.1 h
    exact isMarkless_ifCaptured (ihyes hyes _ _) (ihno hno _ _) g
  | ahead negated body ih => exact isMarkless_ahead (ih h _ _) negated
  | behind negated body ih => exact isMarkless_behind (ih h _ _) negated _
  | atomic body ih => exact isMarkless_atomic (ih h _ _)

theorem Step.isCrossed_of_search {root : Step} (h : root.IsMarkless) {text : Array Char}
    {least left spot : Nat} {hit : Hit} (hhit : root.search text least left spot = some hit) :
    hit.isCrossed = false := by
  induction left generalizing spot with
  | zero =>
    have hrun := h _ marksNothing_accept (State.start spot) rfl
    unfold search at hhit
    split at hhit
    · cases hhit
    · split at hhit
      · next he =>
        rw [he] at hrun
        cases hhit
        rw [hrun]
        rfl
      · cases hhit
      · simp_all
  | succ left ih =>
    have hrun := h _ marksNothing_accept (State.start spot) rfl
    unfold search at hhit
    split at hhit
    · cases hhit
    · split at hhit
      · next he =>
        rw [he] at hrun
        cases hhit
        rw [hrun]
        rfl
      · simp_all
      · next hleft =>
        cases hleft
        exact ih hhit

theorem isCrossed_of_isUncaptured {p : Pattern} (h : p.root.isUncaptured = true) {t : Text} {hit : Hit}
    (hhit : p.hit? t = some hit) : hit.isCrossed = false :=
  Step.isCrossed_of_search (Node.isMarkless_step h t.toArray false none) hhit

end HeaderProbe.Pattern
