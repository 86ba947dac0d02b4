import HeaderProbe.Source.Mask
import HeaderProbe.Source.Bracket
import HeaderProbe.Source.Word
import HeaderProbe.Source.Span

namespace HeaderProbe

open Text

def wordRun : (word s : Text) → List Text × Text
  | w, [] => (close w, [])
  | w, c :: r =>
      if isWordChar c then wordRun (c :: w) r
      else if isBlank c then
        let (words, rest) := wordRun [] r
        (close w ++ words, rest)
      else (close w, c :: r)
where
  close (w : Text) : List Text := if w.isEmpty then [] else [w.reverse]

def declaredName : List Text → Option Text
  | [] => none
  | w :: rest => if rest.all isAttribute then some w else declaredName rest

def instanceShape (type : Text) : Shape Text := fun p =>
  if isWordEdge p.before.head? p.after.head? then do
    let rest ← "struct".toList.isPrefixOf? p.after
    pastBlanks (fun s => do
      let rest ← type.isPrefixOf? s
      guard (rest.head?.any isBlank)
      let (words, rest) := wordRun [] rest
      let name ← declaredName words
      match rest with
      | '=' :: r =>
          match skipBlanks r with
          | '{' :: r => some (name, r)
          | _ => none
      | _ => none) rest
  else none

def nesting (c : Char) : Int :=
  if (Bracket.ofOpening? c).isSome then 1
  else if (Bracket.ofClosing? c).isSome then -1
  else 0

def afterDesignator (field : Text) : Text → Option Text :=
  pastOptionalBlanks fun s => do
    match skipBlanks (← field.isPrefixOf? s) with
    | '=' :: r => some (skipBlanks r)
    | _ => none

def findDesignator (field : Text) : (depth : Int) → (left : Nat) → Text → Option Text
  | _, 0, _ => none
  | _, _ + 1, [] => none
  | depth, left + 1, c :: r =>
      let next := findDesignator field (depth + nesting c) left r
      if c = '.' ∧ depth = 0 then (afterDesignator field r).or next else next

def expressionLength : (depth : Int) → (left : Nat) → Text → Nat
  | _, 0, _ => 0
  | _, _ + 1, [] => 0
  | depth, left + 1, c :: r =>
      if c = ',' ∧ depth = 0 then 0 else expressionLength (depth + nesting c) left r + 1

def valueExtent? (field : Text) (o : Occurrence Text) : Option (Nat × Nat) := do
  let close ← Bracket.brace.afterClose ('{' :: o.rest)
  let rest ← findDesignator field 0 (o.rest.length - close.length - 1) o.rest
  let value := rest.take (expressionLength 0 (rest.length - close.length - 1) rest)
  let start := o.place.offset + o.place.reach rest
  return (start, start + (trimEnd value).length)

def valueSpans (field text : Text) (wanted : Option Text) (os : List (Occurrence Text)) :
    List Span :=
  os.filter (fun o => wanted.all (· == o.value))
    |>.filterMap (valueExtent? field)
    |>.map fun (start, stop) => Span.cut text start stop

def findInitializers (type field text : Text) (wanted : Option Text) : List Span :=
  valueSpans field text wanted ((Place.start (mask text)).occurrences (instanceShape type))

end HeaderProbe
