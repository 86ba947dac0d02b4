import HeaderProbe.Pattern.Node

namespace HeaderProbe.Pattern

abbrev Marks := Array (Option Nat)

namespace Marks

def beginning (group : Nat) : Nat := 2 * (group - 1)

def ending (group : Nat) : Nat := 2 * (group - 1) + 1

def put (m : Marks) (i : Nat) (spot : Nat) : Marks :=
  if i < m.size then m.setIfInBounds i (some spot)
  else (m ++ Array.replicate (i - m.size) none).push (some spot)

def group? (m : Marks) (group : Nat) : Option (Nat × Nat) := do
  let first ← (← m[beginning group]?)
  let last ← (← m[ending group]?)
  if last < first then none else some (first, last)

def undo (saved : Marks) (nested : Bool) (m : Marks) : Marks :=
  if nested then saved
  else if m.size ≤ saved.size then m
  else m.take saved.size

def areCrossed (m : Marks) : Bool :=
  go m.toList
where
  go : List (Option Nat) → Bool
    | some first :: some last :: rest => last < first || go rest
    | _ :: _ :: rest => go rest
    | _ => false

end Marks

structure State where
  spot : Nat
  choice : Nat
  marks : Marks
  deriving DecidableEq, Repr

inductive Result where
  | matched (s : State)
  | failed (s : State)
  deriving DecidableEq, Repr

/-- A part of a match, with the rest of it to come: `next` is asked for each way to go on. -/
structure Step where
  run : (next : State → Result) → State → Result

namespace State

def start (spot : Nat) : State :=
  ⟨spot, spot, #[]⟩

def choose (s : State) : State :=
  { s with choice := s.spot }

def accept (s : State) : Result :=
  .matched s.choose

def mark (s : State) (i : Nat) : State :=
  { s with marks := s.marks.put i s.spot }

end State

def Anchor.holds (text : Array Char) (spot : Nat) : Anchor → Bool
  | textStart => spot == 0
  | lineStart => spot == 0 || text[spot - 1]? == some '\n'
  | textEnd => spot == text.size
  | lastEnd => spot == text.size || (spot + 1 == text.size && text[spot]? == some '\n')
  | lineEnd => spot == text.size || text[spot]? == some '\n'
  | wordEdge ascii negated =>
      let isWord (c : Option Char) := c.any (Category.word.holds ascii ·)
      text.size != 0 &&
        ((spot != 0 && isWord text[spot - 1]?) != isWord text[spot]?) != negated

namespace CharTest

def holdsAt (t : CharTest) (text : Array Char) (spot : Nat) : Bool :=
  text[spot]?.any (t.holds ·)

def extent (t : CharTest) (text : Array Char) : (n : Nat) → (spot : Nat) → Nat
  | 0, p => p
  | n + 1, p => if t.holdsAt text p then t.extent text n (p + 1) else p

def measure (t : CharTest) (text : Array Char) (least : Nat) (most : Option Nat) (s : State) :
    Except State (Nat × State) :=
  let left := text.size - s.spot
  if left < least then .error s
  else
    let p := t.extent text ((most.map (min · left)).getD left) s.spot
    let s := { s with choice := if t.isStepwise then p else s.spot }
    if p - s.spot < least then .error s else .ok (p, s)

end CharTest

def orHere (next : State → Result) (s : State) : Result :=
  match next s with
  | .matched e => .matched e
  | .failed f => .failed { f with choice := s.spot }

def tryAt (nested : Bool) (next : State → Result) (spot : Nat) (s : State) : Result :=
  match next { s with spot := spot, choice := spot } with
  | .matched e => .matched e
  | .failed f => .failed { s with choice := f.choice, marks := s.marks.undo nested f.marks }

def admits (expected : Option CharTest) (text : Array Char) (spot : Nat) : Bool :=
  match expected with
  | some (.literal false code) => text[spot]?.any (·.toNat == code)
  | _ => true

def shrink (text : Array Char) (nested : Bool) (expected : Option CharTest)
    (next : State → Result) : (n : Nat) → (spot : Nat) → State → Result
  | 0, p, s => if admits expected text p then tryAt nested next p s else .failed s
  | n + 1, p, s =>
      if admits expected text p then
        match tryAt nested next p s with
        | .matched e => .matched e
        | .failed s => shrink text nested expected next n (p - 1) s
      else shrink text nested expected next n (p - 1) s

def stretch (t : CharTest) (text : Array Char) (nested : Bool) (last : Option Nat)
    (next : State → Result) : (left : Nat) → (spot : Nat) → State → Result
  | 0, p, s =>
      match tryAt nested next p s with
      | .matched e => .matched e
      | .failed s => .failed { s with choice := p }
  | left + 1, p, s =>
      match tryAt nested next p s with
      | .matched e => .matched e
      | .failed s =>
          if t.holdsAt text p then
            let s := { s with choice := if t.isStepwise then p + 1 else p }
            if last = some p then .failed s
            else stretch t text nested last next left (p + 1) s
          else .failed { s with choice := p }

def afterCaptured (f : Folding) (text : Array Char) :
    (n : Nat) → (captured spot : Nat) → Option Nat
  | 0, _, p => some p
  | n + 1, q, p =>
      match text[q]?, text[p]? with
      | some a, some b =>
          if f.fold a.toNat = f.fold b.toNat then afterCaptured f text n (q + 1) (p + 1) else none
      | _, _ => none

def roundsLeft (text : Array Char) (least : Nat) (most : Option Nat) (s : State) : Nat :=
  let left := text.size - s.spot + 1
  match most with
  | none => left
  | some m => min (m - least) left

namespace Step

def exactly (body : Step) : (n : Nat) → (next : State → Result) → State → Result
  | 0, next => next
  | n + 1, next => fun s => orHere (body.run (exactly body n next)) s.choose

def greedily (body : Step) (next : State → Result) : (n : Nat) → (last : Option Nat) →
    State → Result
  | 0, _, s => orHere next s.choose
  | n + 1, last, s =>
      if last = some s.spot then orHere next s.choose
      else match body.run (greedily body next n (some s.spot)) s.choose with
        | .matched e => .matched e
        | .failed _ => orHere next s.choose

def lazily (nested : Bool) (body : Step) (next : State → Result) : (n : Nat) →
    (last : Option Nat) → State → Result
  | 0, _, s =>
      match tryAt nested next s.spot s with
      | .matched e => .matched e
      | .failed s => .failed s.choose
  | n + 1, last, s =>
      match tryAt nested next s.spot s with
      | .matched e => .matched e
      | .failed s =>
          if last = some s.spot then .failed s.choose
          else orHere (body.run (lazily nested body next n (some s.spot))) s.choose

def firmly (body : Step) : (n : Nat) → State → Result
  | 0, s => .matched s
  | n + 1, s =>
      match body.run State.accept s with
      | .matched e => firmly body n e
      | .failed f => .failed f

/-- Up to `n` times `body`, each in its first way only. A round that fails goes on from its last choice. -/
def eagerly (body : Step) : (n : Nat) → State → State
  | 0, s => s
  | n + 1, s =>
      match body.run State.accept s with
      | .matched e => if e.spot = s.spot then e else eagerly body n e
      | .failed f => { s with spot := f.choice, choice := f.choice }

def empty : Step where
  run next s := next s

def one (text : Array Char) (t : CharTest) : Step where
  run next s := if t.holdsAt text s.spot then next { s with spot := s.spot + 1 } else .failed s

def anchor (text : Array Char) (a : Anchor) : Step where
  run next s := if a.holds text s.spot then next s else .failed s

def seq (first second : Step) : Step where
  run next s := first.run (second.run next) s

def branch (text : Array Char) (nested : Bool) (first : Option CharTest) (body : Step) : Step where
  run next s :=
    if first.any fun t => t.isDirect && !t.holdsAt text s.spot then .failed s
    else tryAt nested (body.run next) s.spot s

def either (first second : Step) : Step where
  run next s :=
    match first.run next s with
    | .matched e => .matched e
    | .failed s => second.run next s

def characters (text : Array Char) (t : CharTest) (greed : Greed) (least : Nat)
    (most : Option Nat) (nested : Bool) (expected : Option CharTest) : Step where
  run next s :=
    match greed with
    | .greedy =>
        match t.measure text least most s with
        | .error s => .failed s
        | .ok (p, s) => shrink text nested expected next (p - s.spot - least) p s
    | .possessive =>
        match t.measure text least most s with
        | .error s => .failed s
        | .ok (p, s) => next { s with spot := p }
    | .lazy =>
        match t.measure text least (some least) s with
        | .error s => .failed s
        | .ok (p, s) =>
            stretch t text nested (most.map fun m => p + (m - least)) next (text.size - p) p s

def greedy (text : Array Char) (least : Nat) (most : Option Nat) (body : Step) : Step where
  run next s := exactly body least (greedily body next (roundsLeft text least most s) none) s

def lazy (text : Array Char) (nested : Bool) (least : Nat) (most : Option Nat) (body : Step) :
    Step where
  run next s := exactly body least (lazily nested body next (roundsLeft text least most s) none) s

def possessive (text : Array Char) (least : Nat) (most : Option Nat) (body : Step) : Step where
  run next s :=
    match firmly body least s.choose with
    | .failed f => .failed { f with choice := s.spot }
    | .matched e => next (eagerly body (roundsLeft text least most s) e)

def capture (group : Nat) (body : Step) : Step where
  run next s :=
    body.run (fun e => next (e.mark (Marks.ending group))) (s.mark (Marks.beginning group))

def sameText (text : Array Char) (group : Nat) (f : Folding) : Step where
  run next s :=
    match s.marks.group? group with
    | none => .failed s
    | some (first, last) =>
        match afterCaptured f text (last - first) first s.spot with
        | none => .failed s
        | some p => next { s with spot := p }

def ifCaptured (group : Nat) (yes no : Step) : Step where
  run next s := if (s.marks.group? group).isSome then yes.run next s else no.run next s

def atomic (body : Step) : Step where
  run next s :=
    match body.run State.accept s.choose with
    | .matched e => next e
    | .failed f => .failed { f with choice := s.spot }

def check (body : Step) (p : Nat) (next : State → Result) (s : State) : Result :=
  match body.run State.accept { s with spot := p, choice := p } with
  | .matched e => next { e with spot := s.spot }
  | .failed f => .failed f

def checkNot (nested : Bool) (body : Step) (p : Nat) (next : State → Result) (s : State) : Result :=
  match body.run State.accept { s with spot := p, choice := p } with
  | .matched e => .failed e
  | .failed f => next { s with choice := f.choice, marks := s.marks.undo nested f.marks }

def ahead (nested negated : Bool) (body : Step) : Step where
  run next s := if negated then checkNot nested body s.spot next s else check body s.spot next s

def behind (nested negated : Bool) (width : Nat) (body : Step) : Step where
  run next s :=
    if s.spot < width then if negated then next s else .failed s
    else if negated then checkNot nested body (s.spot - width) next s
    else check body (s.spot - width) next s

end Step

end HeaderProbe.Pattern
