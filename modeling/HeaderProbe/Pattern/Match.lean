import HeaderProbe.Pattern.Step

namespace HeaderProbe.Pattern

def Node.step (text : Array Char) : Node → (nested : Bool) → (expected : Option CharTest) → Step
  | empty, _, _ => .empty
  | one t, _, _ => .one text t
  | anchor a, _, _ => .anchor text a
  | seq a b, nested, expected =>
      .seq (a.step text nested (b.opening expected)) (b.step text nested expected)
  | either a b, nested, _ =>
      .either (.branch text nested (a.opening none) (a.step text nested none))
        (if b.isEither then b.step text nested none
          else .branch text nested (b.opening none) (b.step text nested none))
  | repeated greed least most body, nested, expected =>
      match body.single?, greed with
      | some t, _ => .characters text t greed least most nested expected
      | none, .greedy => .greedy text least most (body.step text true none)
      | none, .lazy => .lazy text nested least most (body.step text true none)
      | none, .possessive => .possessive text least most (body.step text nested none)
  | group body, nested, expected => body.step text nested expected
  | capture g body, nested, _ => .capture g (body.step text nested none)
  | sameText g f _, _, _ => .sameText text g f
  | ifCaptured g yes no, nested, expected =>
      .ifCaptured g
        (yes.step text nested (match no with
          | empty => expected
          | _ => none))
        (no.step text nested expected)
  | ahead negated body, nested, _ => .ahead nested negated (body.step text nested none)
  | behind negated body, nested, _ =>
      .behind nested negated body.width.least (body.step text nested none)
  | atomic body, nested, _ => .atomic (body.step text nested none)

structure Hit where
  text : Text
  isCrossed : Bool
  deriving DecidableEq, Repr

def Step.search (text : Array Char) (root : Step) (least : Nat) : (left : Nat) → (spot : Nat) →
    Option Hit
  | left, p =>
      if left < least then none
      else match root.run State.accept (State.start p), left with
        | .matched e, _ => some ⟨(text.extract p e.spot).toList, e.marks.areCrossed⟩
        | .failed _, 0 => none
        | .failed _, left + 1 => root.search text least left (p + 1)

end HeaderProbe.Pattern

namespace HeaderProbe.Pattern

def hit? (p : Pattern) (t : Text) : Option Hit :=
  let text := t.toArray
  (p.root.step text false none).search text p.root.width.least text.size 0

def find? (p : Pattern) (t : Text) : Option Text :=
  (p.hit? t).map Hit.text

def occursIn (p : Pattern) (t : Text) : Bool :=
  (p.find? t).isSome

end HeaderProbe.Pattern
