import HeaderProbe.Probe
import Mathlib.Data.List.Basic

namespace HeaderProbe

def Pattern.crosses (p : Pattern) (t : Text) : Bool :=
  (p.hit? t).any (·.isCrossed)

namespace Test

def Satisfied (s : Span) : Test → Prop
  | presence => True
  | has p => p.occursIn s.text = true
  | lacks p => p.occursIn s.text = false
  | absent => False

instance (s : Span) : (t : Test) → Decidable (t.Satisfied s)
  | presence => inferInstanceAs (Decidable True)
  | has p => inferInstanceAs (Decidable (p.occursIn s.text = true))
  | lacks p => inferInstanceAs (Decidable (p.occursIn s.text = false))
  | absent => inferInstanceAs (Decidable False)

def crosses (t : Test) (s : Span) : Bool :=
  t.pattern?.any (·.crosses s.text)

def reason (label : Text) (s : Span) (t : Test) : Text :=
  let place := label ++ ':' :: Text.ofNat s.line
  [' '].intercalate <| match t with
    | presence => ["in".toList, place]
    | has p =>
        ["matches".toList ++ " '".toList ++ p.source ++ ['\x27'], "in".toList, place,
          "found '".toList ++ Text.collapse ((p.find? s.text).getD []) ++ ['\x27']]
    | lacks p => ["lacks".toList ++ " '".toList ++ p.source ++ ['\x27'], "in".toList, place]
    | absent => ["absent".toList, "in".toList, place]

def reasonForNone (labels : List Text) : Text :=
  let place := [' '].intercalate labels
  [' '].intercalate (["absent".toList, "in".toList] ++ if place.isEmpty then [] else [place])

variable {t : Test} {s : Span}

theorem crosses_eq (t : Test) (s : Span) : (t.hit? (some s)).any (·.isCrossed) = t.crosses s := by
  cases t <;> rfl

theorem accepts_eq (t : Test) (s : Span) :
    t.accepts (some s) (t.hit? (some s)) = decide (t.Satisfied s) := by
  cases t with
  | presence => rfl
  | has p => simp [accepts, hit?, pattern?, Satisfied, Pattern.occursIn, Pattern.find?]
  | lacks p =>
    cases h : p.hit? s.text <;>
      simp [accepts, hit?, pattern?, Satisfied, Pattern.occursIn, Pattern.find?, h]
  | absent => rfl

theorem filter_parts {w : Text} (hw : w ≠ []) (a place b : Text) :
    ([a, w, place, b].filter fun part => !part.isEmpty) =
      (if a = [] then [] else [a]) ++ w :: (if place = [] then [] else [place]) ++
        if b = [] then [] else [b] := by
  have hw : w.isEmpty = false := List.isEmpty_eq_false_iff.2 hw
  by_cases ha : a = [] <;> by_cases hp : place = [] <;> by_cases hb : b = [] <;>
    simp [hw, ha, hp, hb]

theorem evidence_of_satisfied (h : t.Satisfied s) (label : Text) :
    (t.verdictOn (some s) (t.hit? (some s)) (label ++ ':' :: Text.ofNat s.line)).evidence =
      t.reason label s := by
  have hplace : label ++ ':' :: Text.ofNat s.line ≠ [] := by simp
  have hquoted (word source : Text) : word ++ source ++ ['\x27'] ≠ [] := by simp
  rw [verdictOn, filter_parts (by decide), if_neg hplace]
  cases t with
  | presence => rfl
  | has p =>
    obtain ⟨hit, hhit⟩ : ∃ hit, p.hit? s.text = some hit := by
      simpa [Satisfied, Pattern.occursIn, Pattern.find?, Option.isSome_iff_exists] using h
    have hfind : p.find? s.text = some hit.text := by rw [Pattern.find?, hhit, Option.map_some]
    have hhit : (has p).hit? (some s) = some hit := hhit
    have hprint : (has p).print ≠ [] := hquoted _ _
    have hfound : (has p).found (some hit) ≠ [] := hquoted _ _
    rw [hhit, if_neg hprint, if_neg hfound, reason, hfind]
    rfl
  | lacks p =>
    have hprint : (lacks p).print ≠ [] := hquoted _ _
    rw [if_neg hprint]
    rfl
  | absent => cases h

theorem judge_absent_none (labels : List Text) :
    absent.judge none ([' '].intercalate labels) = ⟨true, reasonForNone labels⟩ := by
  have hprint : absent.print ≠ [] := by decide
  have hparts := filter_parts (w := "in".toList) (by decide) absent.print
    ([' '].intercalate labels) []
  rw [if_neg hprint] at hparts
  refine congrArg (Verdict.mk true) ?_
  rw [reasonForNone]
  refine congrArg [' '].intercalate (hparts.trans ?_)
  cases [' '].intercalate labels <;> rfl

theorem holds_judge_none (ht : t ≠ .absent) (place : Text) : (t.judge none place).holds = false := by
  cases t with
  | absent => exact absurd rfl ht
  | _ => rfl

theorem verdict_of_crosses (h : t.crosses s = true) (label : Text) :
    t.verdict label s = .error .crossedGroup := by
  rw [verdict, crosses_eq, if_pos h]

theorem verdict_of_not_crosses (h : t.crosses s = false) (label : Text) :
    t.verdict label s =
      .ok (t.verdictOn (some s) (t.hit? (some s)) (label ++ ':' :: Text.ofNat s.line)) := by
  rw [verdict, crosses_eq, if_neg (by simp [h])]

theorem verdict_of_satisfied (hc : t.crosses s = false) (h : t.Satisfied s) (label : Text) :
    t.verdict label s = .ok ⟨true, t.reason label s⟩ := by
  rw [verdict_of_not_crosses hc, ← evidence_of_satisfied h label]
  have hholds : t.accepts (some s) (t.hit? (some s)) = true := by
    rw [accepts_eq, decide_eq_true h]
  rw [← hholds]
  rfl

theorem verdict_of_not_satisfied (hc : t.crosses s = false) (h : ¬ t.Satisfied s) (label : Text) :
    ∃ v : Verdict, v.holds = false ∧ t.verdict label s = .ok v := by
  refine ⟨_, ?_, verdict_of_not_crosses hc label⟩
  exact (accepts_eq t s).trans (decide_eq_false h)

def firstSatisfied? (t : Test) (spans : List Span) : Option Span :=
  spans.find? fun s => decide (t.Satisfied s)

def BreaksOff (t : Test) (spans : List Span) : Prop :=
  ∃ earlier s later, spans = earlier ++ s :: later ∧ t.crosses s = true ∧
    ∀ r ∈ earlier, ¬ t.Satisfied r

variable {spans rest : List Span} {first : Span}

theorem firstSatisfied?_eq_none_iff :
    t.firstSatisfied? spans = none ↔ ∀ s ∈ spans, ¬ t.Satisfied s := by
  simp [firstSatisfied?]

theorem satisfied_of_firstSatisfied? (h : t.firstSatisfied? spans = some s) :
    s ∈ spans ∧ t.Satisfied s := by
  unfold firstSatisfied? at h
  exact ⟨List.mem_of_find?_eq_some h, by simpa using List.find?_some h⟩

theorem breaksOff_cons :
    t.BreaksOff (first :: rest) ↔
      t.crosses first = true ∨ ¬ t.Satisfied first ∧ t.BreaksOff rest := by
  constructor
  · rintro ⟨earlier, s, later, hspans, hs, hearlier⟩
    cases earlier with
    | nil =>
      obtain ⟨rfl, rfl⟩ := List.cons.inj hspans
      exact .inl hs
    | cons r earlier =>
      obtain ⟨rfl, rfl⟩ := List.cons.inj hspans
      obtain ⟨hr, hearlier⟩ := List.forall_mem_cons.1 hearlier
      exact .inr ⟨hr, earlier, s, later, rfl, hs, hearlier⟩
  · rintro (hs | ⟨hfirst, earlier, s, later, rfl, hs, hearlier⟩)
    · exact ⟨[], first, rest, rfl, hs, by simp⟩
    · exact ⟨first :: earlier, s, later, rfl, hs, List.forall_mem_cons.2 ⟨hfirst, hearlier⟩⟩

theorem not_breaksOff_cons :
    ¬ t.BreaksOff (first :: rest) ↔
      t.crosses first = false ∧ (¬ t.Satisfied first → ¬ t.BreaksOff rest) := by
  rw [breaksOff_cons, not_or, Bool.not_eq_true, not_and]

theorem not_breaksOff_nil : ¬ t.BreaksOff [] := by
  rintro ⟨earlier, s, later, hspans, -⟩
  simp at hspans

theorem firstVerdict_cons (t : Test) (label : Text) (s next : Span) (rest : List Span) :
    t.firstVerdict label s (next :: rest) =
      if t.crosses s then .error .crossedGroup
      else if t.Satisfied s then .ok ⟨true, t.reason label s⟩
      else t.firstVerdict label next rest := by
  rw [firstVerdict]
  cases hc : t.crosses s with
  | true =>
    rw [verdict_of_crosses hc]
    rfl
  | false =>
    by_cases hs : t.Satisfied s
    · rw [verdict_of_satisfied hc hs, if_neg (by simp), if_pos hs]
      rfl
    · obtain ⟨v, hv, hverdict⟩ := verdict_of_not_satisfied hc hs label
      rw [hverdict, if_neg (by simp), if_neg hs]
      exact if_neg (by simp [hv])

theorem firstVerdict_of_breaksOff (h : t.BreaksOff (first :: rest)) (label : Text) :
    t.firstVerdict label first rest = .error .crossedGroup := by
  -- The span under test moves along the list, hence `first` is left free.
  induction rest generalizing first with
  | nil =>
    have hc : t.crosses first = true := by simpa [breaksOff_cons, not_breaksOff_nil] using h
    exact verdict_of_crosses hc label
  | cons next rest ih =>
    rw [firstVerdict_cons]
    rcases breaksOff_cons.1 h with hc | ⟨hs, hrest⟩
    · rw [if_pos hc]
    · rw [if_neg hs, ih hrest, ite_self]

theorem firstVerdict_of_firstSatisfied? (hb : ¬ t.BreaksOff (first :: rest))
    (h : t.firstSatisfied? (first :: rest) = some s) (label : Text) :
    t.firstVerdict label first rest = .ok ⟨true, t.reason label s⟩ := by
  induction rest generalizing first with
  | nil =>
    obtain ⟨hc, -⟩ := not_breaksOff_cons.1 hb
    obtain ⟨hmem, hs⟩ := satisfied_of_firstSatisfied? h
    obtain rfl := List.mem_singleton.1 hmem
    exact verdict_of_satisfied hc hs label
  | cons next rest ih =>
    obtain ⟨hc, hrest⟩ := not_breaksOff_cons.1 hb
    rw [firstVerdict_cons, hc, if_neg (by simp)]
    by_cases hs : t.Satisfied first
    · have hfirst : first = s := by simpa [firstSatisfied?, List.find?_cons, hs] using h
      rw [if_pos hs, hfirst]
    · have hlater : t.firstSatisfied? (next :: rest) = some s := by
        simpa only [firstSatisfied?, List.find?_cons, hs, decide_false] using h
      rw [if_neg hs, ih (hrest hs) hlater]

theorem firstVerdict_of_unsatisfied (hb : ¬ t.BreaksOff (first :: rest))
    (h : ∀ s ∈ first :: rest, ¬ t.Satisfied s) (label : Text) :
    ∃ v : Verdict, v.holds = false ∧ t.firstVerdict label first rest = .ok v := by
  induction rest generalizing first with
  | nil =>
    obtain ⟨hc, -⟩ := not_breaksOff_cons.1 hb
    exact verdict_of_not_satisfied hc (h first (by simp)) label
  | cons next rest ih =>
    obtain ⟨hc, hrest⟩ := not_breaksOff_cons.1 hb
    obtain ⟨hfirst, hlater⟩ := List.forall_mem_cons.1 h
    rw [firstVerdict_cons, hc, if_neg (by simp), if_neg hfirst]
    exact ih (hrest hfirst) hlater

end Test

end HeaderProbe
