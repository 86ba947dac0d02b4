import HeaderProbe.Text.Place

namespace HeaderProbe

open Text

def onlyBlanksAhead (s : Text) : Bool :=
  (skipBlanks s).isEmpty || (s.takeWhile isBlank).contains '\n'

def isAssignment (option s : Text) : Bool :=
  match option.isPrefixOf? s with
  | some ('=' :: 'y' :: r) => onlyBlanksAhead r
  | _ => false

def isDefinition (option s : Text) : Bool :=
  match "#define".toList.isPrefixOf? s with
  | none => false
  | some r => (pastBlanks (fun s => do
      match ← (option.isPrefixOf? s).bind (pastBlanks some) with
      | '1' :: r => guard (onlyBlanksAhead r)
      | _ => none) r).isSome

def configEnabled (config option : Text) : Bool :=
  go [] config
where
  go : (before s : Text) → Bool
    | b, [] => here b []
    | b, c :: r => here b (c :: r) || go (c :: b) r
  here (b s : Text) : Bool :=
    Place.atLineStart ⟨b, s⟩ && (isAssignment option s || isDefinition option s)

end HeaderProbe
