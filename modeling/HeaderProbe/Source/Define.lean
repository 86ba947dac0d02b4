import HeaderProbe.Source.Mask
import HeaderProbe.Source.Word
import HeaderProbe.Source.Span

namespace HeaderProbe

open Text

def isIndent (c : Char) : Bool :=
  c == ' ' || c == '\t'

def pastIndent (p : Text → Option α) : Text → Option α
  | [] => none
  | c :: r => if isIndent c then (pastIndent p r).or (p r) else none

def defineShape (name : Text) : Shape Unit := fun p =>
  if p.atLineStart then do
    let rest ← ['#'].isPrefixOf? (p.after.dropWhile isIndent)
    let rest ← "define".toList.isPrefixOf? (rest.dropWhile isIndent)
    let rest ← pastIndent (fun s => do
      let rest ← name.isPrefixOf? s
      guard (isWordEdge (some (name.getLast?.getD ' ')) rest.head?)
      return rest) rest
    return ((), rest)
  else none

def defineLength : (seen s : Text) → Nat
  | _, [] => 0
  | seen, c :: r =>
      if c = '\n' ∧ endsIn '\\' seen = false then 0 else defineLength (c :: seen) r + 1

def findDefine (name text : Text) : Option Span := do
  let o ← ((Place.start (mask text)).occurrences (defineShape name)).head?
  let start := o.place.offset
  let seen := ((text.drop start).take (o.stop - start)).reverse
  return Span.cut text start (o.stop + defineLength seen (text.drop o.stop))

end HeaderProbe
