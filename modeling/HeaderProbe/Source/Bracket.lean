import HeaderProbe.Text.Place

namespace HeaderProbe

inductive Bracket where
  | brace
  | paren
  | square
  deriving DecidableEq, Repr

namespace Bracket

def opening : Bracket → Char
  | brace => '{'
  | paren => '('
  | square => '['

def closing : Bracket → Char
  | brace => '}'
  | paren => ')'
  | square => ']'

def all : List Bracket :=
  [brace, paren, square]

def ofOpening? (c : Char) : Option Bracket :=
  all.find? (·.opening == c)

def ofClosing? (c : Char) : Option Bracket :=
  all.find? (·.closing == c)

def partner (up down : Char) : (depth : Nat) → Text → Option Text
  | _, [] => none
  | d, c :: r =>
      if c = up then partner up down (d + 1) r
      else if c = down then if d ≤ 1 then some r else partner up down (d - 1) r
      else partner up down d r

def afterClose (b : Bracket) (s : Text) : Option Text :=
  partner b.opening b.closing 0 s

def beforeOpen (b : Bracket) (reversed : Text) : Option Text :=
  partner b.closing b.opening 0 reversed

end Bracket

def matchClose (t : Text) (n : Nat) : Option Nat := do
  let b ← t[n]?.bind Bracket.ofOpening?
  let rest ← b.afterClose (t.drop n)
  return t.length - rest.length

def matchOpen (t : Text) (n : Nat) : Option Nat := do
  let b ← t[n]?.bind Bracket.ofClosing?
  let rest ← b.beforeOpen (t.take (n + 1)).reverse
  return rest.length

end HeaderProbe
