import HeaderProbe.Pattern.Token
import HeaderProbe.Pattern.Node
import HeaderProbe.Text.CharacterName

namespace HeaderProbe.Pattern

open Reading

def isOctal (c : Char) : Bool :=
  '0' ≤ c && c ≤ '7'

def isHex (c : Char) : Bool :=
  c.isDigit || ('a' ≤ c && c ≤ 'f') || ('A' ≤ c && c ≤ 'F')

def controlEscape : Char → Option Nat
  | 'a' => some 7
  | 'f' => some 12
  | 'n' => some 10
  | 'r' => some 13
  | 't' => some 9
  | 'v' => some 11
  | '\\' => some 92
  | _ => none

def categoryEscape : Char → Option (Category × Bool)
  | 'd' => some (.digit, false)
  | 'D' => some (.digit, true)
  | 's' => some (.blank, false)
  | 'S' => some (.blank, true)
  | 'w' => some (.word, false)
  | 'W' => some (.word, true)
  | _ => none

def lastCode : Nat := 0x10ffff

def hexEscape (letter : Char) (width : Nat) : Reading Nat := do
  let digits ← takeWhile isHex width
  let escape := '\\' :: letter :: digits
  if digits.length < width then fail (.incompleteEscape escape) escape.length
  let code := Text.natOf 16 digits
  if code > lastCode then fail (.badEscape escape) escape.length
  return code

def namedEscape : Reading Nat := do
  if !(← accept ['{']) then fail (.missing ['{']) 0
  let name ← takeUntil '}' "character name".toList
  match Text.CharacterName.code? name with
  | some code => return code
  | none => fail (.unknownCharacterName name) (name.length + 4)

def codeEscape : Char → Option (Reading Nat)
  | 'x' => some (hexEscape 'x' 2)
  | 'u' => some (hexEscape 'u' 4)
  | 'U' => some (hexEscape 'U' 8)
  | 'N' => some namedEscape
  | _ => none

def plainEscape (c : Char) : Reading Nat := do
  if c.isAlpha || c.isDigit then fail (.badEscape ['\\', c]) 2
  return c.toNat

def octalEscape (digits : Text) : Reading Nat := do
  let code := Text.natOf 8 digits
  if code > 0xff then fail (.octalOutOfRange ('\\' :: digits)) (digits.length + 1)
  return code

def setEscape (flags : Flags) (c : Char) : Reading Member := do
  if c = 'b' then return .char 8
  if let some code := controlEscape c then return .char code
  if let some (k, negated) := categoryEscape c then return .category k flags.ascii negated
  if let some read := codeEscape c then return .char (← read)
  if isOctal c then return .char (← octalEscape (c :: (← takeWhile isOctal 2)))
  return .char (← plainEscape c)

end HeaderProbe.Pattern
