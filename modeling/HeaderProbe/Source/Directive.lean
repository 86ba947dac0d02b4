import HeaderProbe.Source.Word

namespace HeaderProbe

open Text

def isContinued (reversed : Text) : Bool :=
  endsIn '\\' (reversed.takeWhile (· ≠ '\n'))

def logicalHead (before : Text) : Text :=
  go [] before
where
  go : Text → Text → Text
    | head, [] => head
    | head, c :: r =>
        if c = '\n' then if isContinued r then go (c :: head) r else head
        else go (c :: head) r

def inDirective (before : Text) : Bool :=
  (skipBlanks (logicalHead before)).head? == some '#'

inductive LineState where
  | indent
  | code
  | directive (escaped : Bool)
  deriving DecidableEq, Repr

def afterDirectives : LineState → Text → Option Text
  | _, [] => none
  | .indent, c :: r =>
      if c = '#' then afterDirectives (.directive false) r
      else if c = ' ' ∨ c = '\t' ∨ c = '\n' then afterDirectives .indent r
      else afterDirectives .code r
  | .code, c :: r => afterDirectives (if c = '\n' then .indent else .code) r
  | .directive escaped, c :: r =>
      if c = '\n' then
        (afterDirectives (if escaped then .directive false else .indent) r).or (some r)
      else afterDirectives (.directive (c == '\\')) r

def endsStatement (c : Char) : Bool :=
  c == ';' || c == '{' || c == '}'

def statementRest (before : Text) : Text :=
  let tail := before.takeWhile fun c => !endsStatement c
  let first := if tail.length = before.length then LineState.indent else .code
  (afterDirectives first tail.reverse).getD tail.reverse

def statementHead (before : Text) : Text :=
  skipBlanks (statementRest before)

def statementStart (before : Text) : Nat :=
  before.length - (statementHead before).length

end HeaderProbe
