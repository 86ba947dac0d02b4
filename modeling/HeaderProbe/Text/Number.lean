import HeaderProbe.Text.Blank
import HeaderProbe.Text.Digit

namespace HeaderProbe.Text

def ofNat (n : Nat) : Text :=
  Nat.toDigits 10 n

def natOf (base : Nat) (digits : Text) : Nat :=
  digits.foldl (fun n c => n * base + digitValue c) 0
where
  digitValue (c : Char) : Nat :=
    if c.isDigit then c.toNat - 0x30 else c.toLower.toNat - 0x57

def mostDigits : Nat := 4300

def decimals? : Text → Option Nat
  | [] => none
  | c :: r =>
      if isDecimal c && r.countP isDecimal < mostDigits then go (decimalValue c) r else none
where
  go : Nat → Text → Option Nat
    | n, [] => some n
    | n, '_' :: c :: r => if isDecimal c then go (n * 10 + decimalValue c) r else none
    | n, c :: r => if isDecimal c then go (n * 10 + decimalValue c) r else none

def integer? (t : Text) : Option Int :=
  match trimEnd (skipBlanks t) with
  | '-' :: r => (decimals? r).map fun n => -(n : Int)
  | '+' :: r => (decimals? r).map Int.ofNat
  | r => (decimals? r).map Int.ofNat

end HeaderProbe.Text
