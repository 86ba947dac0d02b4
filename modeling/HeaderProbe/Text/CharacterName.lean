import HeaderProbe.Text.Number
import HeaderProbe.Text.Ranges
import HeaderProbe.Text.CharacterName.Aliases
import HeaderProbe.Text.CharacterName.Alphabets
import HeaderProbe.Text.CharacterName.Ancient
import HeaderProbe.Text.CharacterName.EastAsian
import HeaderProbe.Text.CharacterName.Marks
import HeaderProbe.Text.CharacterName.Pictographs
import HeaderProbe.Text.CharacterName.Syllables
import HeaderProbe.Text.CharacterName.Symbols

namespace HeaderProbe.Text.CharacterName

def tables : List String :=
  [aliases, alphabets, syllables, symbols, eastAsian, ancient, marks, pictographs]

def betweenCommas : Text → List Text
  | [] => [[]]
  | c :: r =>
      if c = ',' then [] :: betweenCommas r
      else match betweenCommas r with
        | [] => [[c]]
        | w :: ws => (c :: w) :: ws

def entries (table : String) : List Text :=
  betweenCommas (table.toList.filter (· ≠ '\n'))

def search (name : Text) : (code : Nat) → (words : List Text) → List Text → Option Nat
  | _, _, [] => none
  | code, words, entry :: rest =>
      match entry.dropWhile (· = ' ') with
      | [] => search name code words rest
      | '@' :: digits => search name (natOf 16 digits) words rest
      | '=' :: other => if other = name then some code else search name code words rest
      | kept :: new =>
          let words := words.take (natOf 10 [kept]) ++ fields new
          if [' '].intercalate words = name then some code else search name (code + 1) words rest

def leads : List Text :=
  ["G", "GG", "N", "D", "DD", "R", "M", "B", "BB", "S", "SS", "", "J", "JJ", "C", "K", "T", "P",
    "H"].map String.toList

def vowels : List Text :=
  ["A", "AE", "YA", "YAE", "EO", "E", "YEO", "YE", "O", "WA", "WAE", "OE", "YO", "U", "WEO", "WE",
    "WI", "YU", "EU", "YI", "I"].map String.toList

def tails : List Text :=
  ["", "G", "GG", "GS", "N", "NJ", "NH", "D", "L", "LG", "LM", "LB", "LS", "LT", "LP", "LH", "M",
    "B", "BS", "S", "SS", "NG", "J", "C", "K", "T", "P", "H"].map String.toList

def longestPart (parts : List Text) (s : Text) : Option (Nat × Text) :=
  let found := parts.zipIdx.filter fun (p, _) => p.isPrefixOf s
  (found.maxOn? fun (p, _) => p.length).map fun (p, i) => (i, s.drop p.length)

def hangul? (s : Text) : Option Nat := do
  let (lead, s) ← longestPart leads s
  let (vowel, s) ← longestPart vowels s
  let (tail, s) ← longestPart tails s
  guard s.isEmpty
  return 0xac00 + (lead * 21 + vowel) * 28 + tail

def isUpperHex (c : Char) : Bool :=
  c.isDigit || ('A' ≤ c && c ≤ 'F')

def ideographRanges : List (Nat × Nat) :=
  [(0x3400, 0x4dbf), (0x4e00, 0x9fff), (0x20000, 0x2a6df), (0x2a700, 0x2b738), (0x2b740, 0x2b81d),
   (0x2b820, 0x2cea1), (0x2ceb0, 0x2ebe0), (0x30000, 0x3134a)]

def ideograph? (digits : Text) : Option Nat := do
  guard ((digits.length = 4 ∨ digits.length = 5) ∧ digits.all isUpperHex)
  let code := natOf 16 digits
  guard (inRanges ideographRanges code)
  return code

def numbered : List (Text × List (Nat × Nat)) :=
  [("CJK COMPATIBILITY IDEOGRAPH-".toList,
    [(0xf900, 0xfa6d), (0xfa70, 0xfad9), (0x2f800, 0x2fa1d)]),
   ("KHITAN SMALL SCRIPT CHARACTER-".toList, [(0x18b00, 0x18cd5)]),
   ("NUSHU CHARACTER-".toList, [(0x1b170, 0x1b2fb)])]

def numbered? (name : Text) : Option Nat :=
  numbered.findSome? fun (start, ranges) => do
    let digits ← start.isPrefixOf? name
    let code := natOf 16 digits
    guard (inRanges ranges code ∧ digits = (Nat.toDigits 16 code).map Char.toUpper)
    return code

def selector? (name : Text) : Option Nat := do
  let digits ← "VS".toList.isPrefixOf? name
  guard (digits.length ≤ 3)
  let n := natOf 10 digits
  guard (1 ≤ n ∧ n ≤ 256 ∧ digits = Text.ofNat n)
  return if n ≤ 16 then 0xfdff + n else 0xe00ef + n

def code? (name : Text) : Option Nat :=
  if let some s := "HANGUL SYLLABLE ".toList.isPrefixOf? name then hangul? s
  else if let some digits := "CJK UNIFIED IDEOGRAPH-".toList.isPrefixOf? name then ideograph? digits
  else
    let name := name.map Char.toUpper
    (numbered? name).or <| (selector? name).or <|
      tables.findSome? fun table => search name 0 [] (entries table)

end HeaderProbe.Text.CharacterName
