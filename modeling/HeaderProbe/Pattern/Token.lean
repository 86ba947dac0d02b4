import HeaderProbe.Pattern.Fault

namespace HeaderProbe.Pattern

abbrev Token := Text

def tokens : (escape : Bool) → Text → List Token
  | false, [] => []
  | true, [] => [['\\']]
  | true, c :: r => ['\\', c] :: tokens false r
  | false, c :: r => if c = '\\' then tokens true r else [c] :: tokens false r

structure Cursor where
  rest : List Token
  offset : Nat
  deriving DecidableEq, Repr

namespace Cursor

def first (c : Cursor) : Option Token :=
  c.rest.head?

def checked (c : Cursor) : Except Error Cursor :=
  if c.first = some ['\\'] then .error ⟨.danglingEscape, some c.offset⟩ else .ok c

def ofPattern (source : Text) : Except Error Cursor :=
  checked ⟨tokens false source, 0⟩

def next (c : Cursor) : Except Error (Option Token × Cursor) :=
  match c.rest with
  | [] => .ok (none, c)
  | t :: rest => do return (some t, ← checked ⟨rest, c.offset + t.length⟩)

def error (c : Cursor) (fault : Fault) (back : Nat) : Error :=
  ⟨fault, some (c.offset - back)⟩

end Cursor

abbrev Reading := StateT Cursor (Except Error)

namespace Reading

def peek : Reading (Option Token) := do
  return (← get).first

def offset : Reading Nat := do
  return (← get).offset

def take : Reading (Option Token) := do
  let (t, c) ← (← get).next
  set c
  return t

def fail {α : Type} (fault : Fault) (back : Nat) : Reading α := do
  throw ((← get).error fault back)

def accept (t : Token) : Reading Bool := do
  if (← peek) = some t then
    discard take
    return true
  return false

def takeWhile (p : Char → Bool) : (n : Nat) → Reading Text
  | 0 => return []
  | n + 1 => do
      match ← peek with
      | some [c] =>
          if p c then
            discard take
            return c :: (← takeWhile p n)
          else return []
      | _ => return []

def takeAll (p : Char → Bool) : Reading Text := do
  takeWhile p (← get).rest.length

def takeUntil (terminator : Char) (what : Text) : Reading Text := do
  go (← get).rest.length []
where
  go : Nat → Text → Reading Text
    | 0, read => if read.isEmpty then fail (.missing what) 0
        else fail (.unterminated [terminator] "name".toList) read.length
    | n + 1, read => do
        match ← take with
        | none => go 0 read
        | some t =>
            if t = [terminator] then
              if read.isEmpty then fail (.missing what) 1 else return read
            else go n (read ++ t)

end Reading

end HeaderProbe.Pattern
