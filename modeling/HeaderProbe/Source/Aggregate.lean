import HeaderProbe.Source.Mask
import HeaderProbe.Source.Bracket
import HeaderProbe.Source.Word
import HeaderProbe.Source.Span

namespace HeaderProbe

open Text

def afterOpening (name s : Text) : Option Text := do
  match skipBlanks (← name.isPrefixOf? s) with
  | '{' :: r => some r
  | _ => none

def bodyShape (keyword name : Text) : Shape Unit := fun p =>
  if isWordEdge p.before.head? p.after.head? then do
    let rest ← keyword.isPrefixOf? p.after
    let rest ← pastBlanks (afterOpening name) rest
    return ((), rest)
  else none

def bodyExtent? (o : Occurrence Unit) : Option (Nat × Nat) := do
  let close ← Bracket.brace.afterClose ('{' :: o.rest)
  return (o.place.offset, o.place.offset + o.place.reach close)

def findBody (keyword name text : Text) : Option Span :=
  ((Place.start (mask text)).occurrences (bodyShape keyword name)).findSome? bodyExtent?
    |>.map fun (start, stop) => Span.cut text start stop

def findStruct : (name text : Text) → Option Span :=
  findBody "struct".toList

def findEnum : (name text : Text) → Option Span :=
  findBody "enum".toList

end HeaderProbe
