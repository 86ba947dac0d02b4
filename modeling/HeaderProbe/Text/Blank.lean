namespace HeaderProbe

abbrev Text := List Char

namespace Text

def isBlank (c : Char) : Bool :=
  let n := c.toNat
  n == 0x20 || (0x9 ≤ n && n ≤ 0xd) || (0x1c ≤ n && n ≤ 0x1f) || n == 0x85 || n == 0xa0 ||
    n == 0x1680 || (0x2000 ≤ n && n ≤ 0x200a) || n == 0x2028 || n == 0x2029 || n == 0x202f ||
    n == 0x205f || n == 0x3000

def skipBlanks (s : Text) : Text :=
  s.dropWhile isBlank

def trimEnd (s : Text) : Text :=
  (s.reverse.dropWhile isBlank).reverse

def endsIn (c : Char) (reversed : Text) : Bool :=
  (skipBlanks reversed).head? == some c

def pastBlanks (p : Text → Option α) : Text → Option α
  | [] => none
  | c :: r => if isBlank c then (pastBlanks p r).or (p r) else none

def pastOptionalBlanks (p : Text → Option α) (s : Text) : Option α :=
  (pastBlanks p s).or (p s)

def fields : Text → List Text :=
  go []
where
  go : Text → Text → List Text
    | w, [] => close w
    | w, c :: r => if isBlank c then close w ++ go [] r else go (c :: w) r
  close (w : Text) : List Text := if w.isEmpty then [] else [w.reverse]

def collapse (s : Text) : Text :=
  [' '].intercalate (fields s)

end Text

end HeaderProbe
