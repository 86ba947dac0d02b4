import HeaderProbe.Source.Aggregate
import HeaderProbe.Source.Function

namespace HeaderProbe

open Text

def nameShape (name : Text) : Shape Unit := fun p =>
  if mayBeginName p.before then do
    let rest ← name.isPrefixOf? p.after
    guard (isWordEdge (name.getLast?.or p.before.head?) rest.head?)
    return ((), rest)
  else none

def closesPointer (s : Text) : Bool :=
  match skipBlanks s with
  | ')' :: r => (skipBlanks r).head? == some '('
  | _ => false

def endsDeclarator (s : Text) : Bool :=
  (skipBlanks s).head?.any (fun c => c == ';' || c == '[' || c == ':' || c == ',') ||
    (afterAttribute s).isSome

def tagKeywords : List Text :=
  ["struct", "union", "enum"].map String.toList

def parenDepth (s : Text) : Int :=
  (s.count '(' : Int) - s.count ')'

def isMember (o : Occurrence Unit) : Bool :=
  let head := statementHead o.place.before
  if closesPointer o.rest then parenDepth head == 1 && opensPointer head.reverse
  else parenDepth head == 0 && endsDeclarator o.rest &&
    !tagKeywords.contains (wordBefore o.place.before)

def bodyPlace (masked : Text) : Place :=
  Place.of masked ((masked.takeWhile (· ≠ '{')).length + 1)

def memberExtent? (field definition : Text) : Option (Nat × Nat) := do
  let o ← ((bodyPlace (mask definition)).occurrences (nameShape field)).find? isMember
  let tail := o.rest.dropWhile (· ≠ ';')
  guard (!tail.isEmpty)
  return (statementStart o.place.before, o.place.offset + o.place.reach tail + 1)

def findMember (type field text : Text) : Option Span := do
  let struct ← findStruct type text
  let (start, stop) ← memberExtent? field struct.text
  return Span.cut text (struct.start + start) (struct.start + stop)

end HeaderProbe
