import HeaderProbe.Text.Blank

namespace HeaderProbe

def literalLength (quote : Char) : (escaped : Bool) → Text → Option Nat
  | _, [] => none
  | true, _ :: r => (literalLength quote false r).map (· + 1)
  | false, c :: r =>
      if c = '\\' then (literalLength quote true r).map (· + 1)
      else if c = quote then some 1
      else if c = '\n' then none
      else (literalLength quote false r).map (· + 1)

def commentLength : (star : Bool) → Text → Option Nat
  | _, [] => none
  | star, c :: r =>
      if star && c == '/' then some 1 else (commentLength (c == '*') r).map (· + 1)

def hiddenLength : Text → Option Nat
  | '/' :: '*' :: r => (commentLength false r).map (· + 2)
  | '/' :: '/' :: r => some ((r.takeWhile (· ≠ '\n')).length + 2)
  | '"' :: r => (literalLength '"' false r).map (· + 1)
  | '\'' :: r => (literalLength '\'' false r).map (· + 1)
  | _ => none

def blankOut (c : Char) : Char :=
  if c = '\n' then c else ' '

def maskFrom : (n : Nat) → Text → Text
  | _, [] => []
  | n + 1, c :: r => blankOut c :: maskFrom n r
  | 0, c :: r =>
      match hiddenLength (c :: r) with
      | some (n + 1) => blankOut c :: maskFrom n r
      | _ => c :: maskFrom 0 r

def mask (t : Text) : Text :=
  maskFrom 0 t

@[simp] theorem length_maskFrom (n : Nat) (t : Text) : (maskFrom n t).length = t.length := by
  fun_induction maskFrom n t <;> simp_all

@[simp] theorem length_mask (t : Text) : (mask t).length = t.length :=
  length_maskFrom 0 t

end HeaderProbe
