import HeaderProbe.Text.Blank

namespace HeaderProbe.ShellWords

inductive Fault where
  | noClosingQuote
  | noEscapedCharacter
  deriving DecidableEq, Repr

def Fault.message : Fault → Text
  | noClosingQuote => "No closing quotation".toList
  | noEscapedCharacter => "No escaped character".toList

def isSeparator (c : Char) : Bool :=
  c == ' ' || c == '\t' || c == '\r' || c == '\n'

inductive Mode where
  | bare
  | escaped
  | single
  | double
  | doubleEscaped
  deriving DecidableEq, Repr

def splitFrom : Mode → (word : Option Text) → Text → Except Fault (List Text)
  | .bare, word, [] => .ok (word.toList.map List.reverse)
  | .bare, word, c :: r =>
      if isSeparator c then
        (splitFrom .bare none r).map (word.toList.map List.reverse ++ ·)
      else if c = '\\' then splitFrom .escaped word r
      else if c = '\x27' then splitFrom .single (some (word.getD [])) r
      else if c = '"' then splitFrom .double (some (word.getD [])) r
      else splitFrom .bare (some (c :: word.getD [])) r
  | .escaped, _, [] => .error .noEscapedCharacter
  | .escaped, word, c :: r => splitFrom .bare (some (c :: word.getD [])) r
  | .single, _, [] => .error .noClosingQuote
  | .single, word, c :: r =>
      if c = '\x27' then splitFrom .bare word r else splitFrom .single (some (c :: word.getD [])) r
  | .double, _, [] => .error .noClosingQuote
  | .double, word, c :: r =>
      if c = '"' then splitFrom .bare word r
      else if c = '\\' then splitFrom .doubleEscaped word r
      else splitFrom .double (some (c :: word.getD [])) r
  | .doubleEscaped, _, [] => .error .noEscapedCharacter
  | .doubleEscaped, word, c :: r =>
      let kept := if c = '"' ∨ c = '\\' then [c] else [c, '\\']
      splitFrom .double (some (kept ++ word.getD [])) r

def split (line : Text) : Except Fault (List Text) :=
  splitFrom .bare none line

def isPlain (c : Char) : Bool :=
  c.isAlphanum || "_@%+=:,./-".toList.contains c

def quote (word : Text) : Text :=
  if !word.isEmpty && word.all isPlain then word
  else '\x27' :: word.flatMap (fun c => if c = '\x27' then "'\"'\"'".toList else [c]) ++ ['\x27']

def join (words : List Text) : Text :=
  [' '].intercalate (words.map quote)

end HeaderProbe.ShellWords
