import HeaderProbe.Text.Blank
import HeaderProbe.Text.Digit
import HeaderProbe.Text.Alphanumeric
import HeaderProbe.Text.Lowercase
import HeaderProbe.Text.Uppercase

namespace HeaderProbe.Pattern

inductive Folding where
  | exact
  | ascii
  | unicode
  deriving DecidableEq, Repr

inductive Category where
  | digit
  | blank
  | word
  deriving DecidableEq, Repr

def Category.holds (k : Category) (ascii : Bool) (c : Char) : Bool :=
  (!ascii || c.toNat < 128) &&
    match k with
    | digit => Text.isDecimal c
    | blank => Text.isBlank c && !(ascii && 0x1c ≤ c.toNat && c.toNat ≤ 0x1f)
    | word => Text.isWordChar c

inductive Member where
  | char (code : Nat)
  | range (first last : Nat)
  | category (k : Category) (ascii negated : Bool)
  | eitherCase (first last : Nat)
  deriving DecidableEq, Repr

def Member.holds (n : Nat) : Member → Bool
  | char code => n == code
  | range first last => first ≤ n && n ≤ last
  | category k ascii negated => k.holds ascii (Char.ofNat n) != negated
  | eitherCase first last =>
      first ≤ n && n ≤ last || first ≤ Text.uppercase n && Text.uppercase n ≤ last

def basicPlane : Nat := 0x10000

namespace Folding

def fold : Folding → Nat → Nat
  | exact, n => n
  | ascii, n => if n < 0x80 then Text.lowercase n else n
  | unicode, n => Text.lowercase n

def isCased : Folding → Nat → Bool
  | exact, _ => false
  | ascii, n => (0x41 ≤ n && n ≤ 0x5a) || (0x61 ≤ n && n ≤ 0x7a)
  | unicode, n => Text.lowercase n != n || Text.uppercase n != n

def anyCased (f : Folding) (first last : Nat) : Bool :=
  let meets (a b : Nat) := first ≤ b && a ≤ last
  let ascii := meets 0x41 0x5a || meets 0x61 0x7a
  match f with
  | exact => false
  | .ascii => ascii
  | unicode => ascii || (Text.lowercaseRuns ++ Text.uppercaseRuns).any fun run =>
      !(run.within first last).isEmpty

def forms (f : Folding) (n : Nat) : List Nat :=
  match f with
  | unicode => Text.peers (Text.lowercase n)
  | _ => [f.fold n]

def image (f : Folding) (first last : Nat) : List Member :=
  let upper := if first ≤ 0x5a && 0x41 ≤ last then
      [.range (max first 0x41 + 0x20) (min last 0x5a + 0x20)]
    else []
  match f with
  | exact => [.range first last]
  | ascii => .range first last :: upper
  | unicode =>
      let moved := Text.lowercaseRuns.flatMap fun run =>
        if run.step = 1 then
          let a := max first run.first
          let b := min last run.last
          if a ≤ b then [Member.range (run.move a) (run.move b)] else []
        else ((run.within first last).map run.move).filterMap fun n =>
          if first ≤ n && n ≤ last then none else some (.char n)
      let lower := .range first last :: upper ++ moved
      lower ++ Text.lowercasePeers.flatMap fun (n, peers) =>
        if lower.any (·.holds n) then peers.map .char else []

def concerns (f : Folding) : Member → Bool
  | .char code => f.isCased code || basicPlane ≤ code
  | .range first last => basicPlane ≤ last || f.anyCased first last
  | _ => false

def close (f : Folding) : Member → List Member
  | .char code => if code < basicPlane then (f.forms code).map .char else [.char code]
  | .range first last =>
      (if first < basicPlane then f.image first (min last (basicPlane - 1)) else []) ++
        if basicPlane ≤ last then [.eitherCase first last] else []
  | m => [m]

end Folding

inductive CharTest where
  | any (breaks : Bool)
  | literal (negated : Bool) (code : Nat)
  | folded (negated : Bool) (forms : List Nat) (folding : Folding)
  | set (negated : Bool) (members : List Member) (folding : Folding)
  deriving DecidableEq, Repr

namespace CharTest

def holds (c : Char) : CharTest → Bool
  | any breaks => breaks || c ≠ '\n'
  | literal negated code => (c.toNat == code) != negated
  | folded negated forms f => forms.contains (f.fold c.toNat) != negated
  | set negated members f => (members.any (·.holds (f.fold c.toNat))) != negated

def ofChar (f : Folding) (negated : Bool) (code : Nat) : CharTest :=
  if f.isCased code then .folded negated (f.forms code) f else .literal negated code

def ofMembers (f : Folding) (negated : Bool) (members : List Member) : CharTest :=
  if f ≠ .exact && members.any f.concerns then .set negated (members.flatMap f.close) f
  else .set negated members .exact

def isDirect : CharTest → Bool
  | literal negated _ => !negated
  | set _ _ f => f = .exact
  | _ => false

def isStepwise : CharTest → Bool
  | folded _ forms _ => forms.length > 1
  | set _ _ f => f ≠ .exact
  | _ => false

end CharTest

end HeaderProbe.Pattern
