import HeaderProbe.Pattern.Escape
import HeaderProbe.Text.Identifier

namespace HeaderProbe.Pattern

open Reading

inductive Role where
  | plain
  | anchor
  | quantified
  deriving DecidableEq, Repr

inductive Leaf where
  | any (breaks : Bool)
  | char (negated : Bool) (code : Nat)
  | set (negated : Bool) (members : List Member)
  deriving DecidableEq, Repr

def Leaf.test (f : Folding) : Leaf → CharTest
  | any breaks => .any breaks
  | char negated code => .ofChar f negated code
  | set negated members => .ofMembers f negated members

def Leaf.members? : Leaf → Option (List Member)
  | char false code => some [.char code]
  | set false members => some members
  | _ => none

inductive Piece where
  | leaf (l : Leaf) (folding : Folding)
  | anchor (a : Anchor)
  | sameText (group : Nat) (folding : Folding) (width : Width)
  | other (n : Node)
  deriving Repr

namespace Piece

def node : Piece → Node
  | leaf l f => .one (l.test f)
  | anchor a => .anchor a
  | sameText g f w => .sameText g f w
  | other n => n

def same : Piece → Piece → Bool
  | leaf l f, leaf l' f' => l == l' && f == f'
  | anchor a, anchor a' => a == a'
  | sameText g f _, sameText g' f' _ => g == g' && f == f'
  | _, _ => false

def members? : List Piece → Option (List Member)
  | [leaf l _] => l.members?
  | _ => none

def sequence (ps : List Piece) : Node :=
  .sequence (ps.map node)

def splitCommon : (first : List Piece) → (others : List (List Piece)) →
    List Piece × List (List Piece)
  | [], others => ([], [] :: others)
  | p :: ps, others =>
      if others.all fun o => o.head?.any (same p) then
        let (common, rest) := splitCommon ps (others.map List.tail)
        (p :: common, rest)
      else ([], (p :: ps) :: others)

def alternatives (f : Folding) : List (List Piece) → List Piece
  | [] => []
  | [branch] => branch
  | first :: others =>
      let (common, rest) := splitCommon first others
      common ++ [match rest.mapM members? with
        | some sets => .leaf (.set false sets.flatten.eraseDups) f
        | none => .other (.alternatives (rest.map sequence))]

end Piece

structure Item where
  pieces : List Piece
  role : Role := .plain
  deriving Repr

inductive GroupKind where
  | plain
  | flagged
  | capture (group : Nat)
  | atomic
  | ahead (negated : Bool)
  | behind (negated : Bool)
  | ifCaptured (group : Nat)
  deriving DecidableEq, Repr

structure Frame where
  kind : GroupKind
  start : Nat
  flags : Flags
  items : List Item
  branches : List (List Piece)
  behindLimit : Option Nat
  deriving Repr

structure Draft where
  flags : Flags := {}
  items : List Item := []
  branches : List (List Piece) := []
  frames : List Frame := []
  groups : List (Option Width) := []
  names : List (Text × Nat) := []
  behindLimit : Option Nat := none
  conditions : List (Nat × Nat) := []
  deriving Repr

namespace Draft

def push (d : Draft) (piece : Piece) (role : Role := .plain) : Draft :=
  { d with items := ⟨[piece], role⟩ :: d.items }

def leaf (d : Draft) (l : Leaf) : Draft :=
  d.push (.leaf l d.flags.folding)

def literal (d : Draft) (code : Nat) : Draft :=
  d.leaf (.char false code)

def groupWidth? (d : Draft) (group : Nat) : Option Width :=
  (d.groups[group - 1]?).join

def branch (d : Draft) : List Piece :=
  d.items.reverse.flatMap Item.pieces

def body (d : Draft) : List Piece :=
  Piece.alternatives d.flags.folding (d.branch :: d.branches).reverse

def openGroup (d : Draft) (kind : GroupKind) (start : Nat) : Draft :=
  { d with
    frames := ⟨kind, start, d.flags, d.items, d.branches, d.behindLimit⟩ :: d.frames
    items := []
    branches := [] }

end Draft

def checkBehind (d : Draft) (group : Nat) : Reading Unit := do
  if let some limit := d.behindLimit then
    if (d.groupWidth? group).isNone then fail .openGroup 0
    if group ≥ limit then fail .groupInSameLookbehind 0

def repeatGroup (d : Draft) (group : Nat) (back : Nat) : Reading Draft := do
  match d.groupWidth? group with
  | none => fail .openGroup back
  | some width =>
      checkBehind d group
      return d.push (.sameText group d.flags.folding width)

def digitEscape (d : Draft) (c : Char) : Reading Draft := do
  if c = '0' then return d.literal (Text.natOf 8 (← takeWhile isOctal 2))
  let mut digits := [c]
  match ← takeWhile Char.isDigit 1 with
  | [] => pure ()
  | second =>
      digits := digits ++ second
      if digits.all isOctal then
        match ← takeWhile isOctal 1 with
        | [] => pure ()
        | third => return d.literal (← octalEscape (digits ++ third))
  let group := Text.natOf 10 digits
  if group ≤ d.groups.length then repeatGroup d group (digits.length + 1)
  else fail (.noSuchGroup group) digits.length

def readEscape (d : Draft) (c : Char) : Reading Draft := do
  let edge (negated : Bool) := d.push (.anchor (.wordEdge d.flags.ascii negated)) .anchor
  match c with
  | 'A' => return d.push (.anchor .textStart) .anchor
  | 'Z' => return d.push (.anchor .textEnd) .anchor
  | 'b' => return edge false
  | 'B' => return edge true
  | _ =>
      if let some (k, negated) := categoryEscape c then
        return d.leaf (.set false [.category k d.flags.ascii negated])
      if let some code := controlEscape c then return d.literal code
      if let some read := codeEscape c then return d.literal (← read)
      if c.isDigit then digitEscape d c
      else return d.literal (← plainEscape c)

def readMember (flags : Flags) (t : Token) : Reading Member :=
  match t with
  | ['\\', c] => setEscape flags c
  | _ => return .char ((t.headD ' ').toNat)

def readMembers (flags : Flags) (start : Nat) : (n : Nat) → List Member → Reading (List Member)
  | 0, _ => unterminated
  | n + 1, read => do
      let some first ← take | unterminated
      if first = [']'] && !read.isEmpty then return read.reverse
      let low ← readMember flags first
      if !(← accept ['-']) then return (← readMembers flags start n (low :: read))
      let some last ← take | unterminated
      if last = [']'] then return (.char '-'.toNat :: low :: read).reverse
      let high ← readMember flags last
      let bad := fail (.badRange first last) (first.length + 1 + last.length)
      match low, high with
      | .char a, .char b =>
          if b < a then bad else readMembers flags start n (.range a b :: read)
      | _, _ => bad
where
  unterminated : Reading (List Member) := do
    fail .unterminatedSet ((← offset) - start)

def readSet (d : Draft) : Reading Draft := do
  let start := (← offset) - 1
  let negated ← accept ['^']
  let members ← readMembers d.flags start ((← get).rest.length + 1) []
  match members.eraseDups with
  | [.char code] => return d.leaf (.char negated code)
  | members => return d.leaf (.set negated members)

def readCount (digits : Text) : Reading (Option Nat) := do
  if digits.isEmpty then return none
  if digits.length > Text.mostDigits then throw ⟨.tooManyDigits digits.length, none⟩
  let n := Text.natOf 10 digits
  if n ≥ countLimit then throw ⟨.repetitionTooLarge, none⟩
  return some n

def readBounds : Reading (Option (Nat × Option Nat)) := do
  let here ← get
  if (← peek) = some ['}'] then return none
  let low ← takeAll Char.isDigit
  let high ← if ← accept [','] then takeAll Char.isDigit else pure low
  if !(← accept ['}']) then
    set here
    return none
  let least ← readCount low
  let most ← readCount high
  if most.any (· < least.getD 0) then fail .leastAboveMost ((← offset) - here.offset)
  return some (least.getD 0, most)

def readGreed : Reading Greed := do
  if ← accept ['?'] then return .lazy
  if ← accept ['+'] then return .possessive
  return .greedy

def quantify (d : Draft) (least : Nat) (most : Option Nat) (start : Nat) : Reading Draft := do
  let back := (← offset) - start
  match d.items with
  | [] => fail .nothingToRepeat back
  | ⟨_, .anchor⟩ :: _ => fail .nothingToRepeat back
  | ⟨_, .quantified⟩ :: _ => fail .multipleRepeat back
  | ⟨pieces, .plain⟩ :: items =>
      let node := .repeated (← readGreed) least most (Piece.sequence pieces)
      return { d with items := ⟨[.other node], .quantified⟩ :: items }

structure FlagLetter where
  set : Flags → Bool → Flags
  isType : Bool := false

def flagLetter : Token → Option FlagLetter
  | ['i'] => some ⟨fun f b => { f with ignoreCase := b }, false⟩
  | ['m'] => some ⟨fun f b => { f with multiline := b }, false⟩
  | ['s'] => some ⟨fun f b => { f with dotAll := b }, false⟩
  | ['x'] => some ⟨fun f b => { f with verbose := b }, false⟩
  | ['t'] => some ⟨fun f b => { f with template := b }, false⟩
  | ['a'] => some ⟨fun f b => { f with ascii := b }, true⟩
  | ['u'] => some ⟨fun f b => { f with unicode := b }, true⟩
  | ['L'] => some ⟨fun f _ => f, true⟩
  | _ => none

def Flags.meet (a b : Flags) : Flags where
  ignoreCase := a.ignoreCase && b.ignoreCase
  multiline := a.multiline && b.multiline
  dotAll := a.dotAll && b.dotAll
  verbose := a.verbose && b.verbose
  ascii := a.ascii && b.ascii
  unicode := a.unicode && b.unicode
  template := a.template && b.template

def Flags.change (f added removed : Flags) : Flags :=
  let typed := added.ascii || added.unicode
  { ignoreCase := (f.ignoreCase || added.ignoreCase) && !removed.ignoreCase
    multiline := (f.multiline || added.multiline) && !removed.multiline
    dotAll := (f.dotAll || added.dotAll) && !removed.dotAll
    verbose := (f.verbose || added.verbose) && !removed.verbose
    ascii := if typed then added.ascii else f.ascii
    unicode := if typed then added.unicode else f.unicode
    template := f.template }

def Flags.union (f added : Flags) : Flags where
  ignoreCase := f.ignoreCase || added.ignoreCase
  multiline := f.multiline || added.multiline
  dotAll := f.dotAll || added.dotAll
  verbose := f.verbose || added.verbose
  ascii := f.ascii || added.ascii
  unicode := f.unicode || added.unicode
  template := f.template || added.template

def isLetterToken (t : Token) : Bool :=
  t.all fun c => Text.isAlphanumeric c && !Text.isNumber c

def badFlag {α : Type} (t : Token) (what : Text) : Reading α :=
  fail (if isLetterToken t then .unknownFlag else .missing what) t.length

def readAdded : (n : Nat) → Flags → Token → Reading (Flags × Token)
  | 0, flags, t => return (flags, t)
  | n + 1, flags, t => do
      let some letter := flagLetter t | badFlag t "-, : or )".toList
      if t = ['L'] then fail .bytesFlag 0
      let flags := letter.set flags true
      if letter.isType && flags.ascii && flags.unicode then fail .clashingFlags 0
      let some t ← take | fail (.missing "-, : or )".toList) 0
      if t = [')'] || t = ['-'] || t = [':'] then return (flags, t)
      readAdded n flags t

def readRemoved : (n : Nat) → Flags → Token → (what : Text) → Reading Flags
  | 0, flags, _, _ => return flags
  | n + 1, flags, t, what => do
      let some letter := flagLetter t | badFlag t what
      if letter.isType then fail .typeFlagTurnedOff 0
      let flags := letter.set flags true
      let some t ← take | fail (.missing [':']) 0
      if t = [':'] then return flags
      readRemoved n flags t [':']

def readFlags (t : Token) : Reading (Flags × Option Flags) := do
  let fuel := (← get).rest.length + 1
  let (added, t) ← if t = ['-'] then pure ({}, t) else readAdded fuel {} t
  if t = [')'] then return (added, none)
  if added.template then fail .globalFlagTurnedOn 1
  let removed ← if t = ['-'] then do
      let some t ← take | fail (.missing "flag".toList) 0
      readRemoved fuel {} t "flag".toList
    else pure {}
  if removed.template then fail .globalFlagTurnedOff 1
  if added.meet removed ≠ {} then fail .flagOnAndOff 1
  return (added, some removed)

def readFlagGroup (d : Draft) (start : Nat) (t : Token) : Reading Draft := do
  match ← readFlags t with
  | (added, none) =>
      if !(d.frames.isEmpty && d.branches.isEmpty && d.items.isEmpty) then
        fail .lateGlobalFlags ((← offset) - start)
      return { d with flags := d.flags.union added }
  | (added, some removed) =>
      return { d.openGroup .flagged start with flags := d.flags.change added removed }

def readName (terminator : Char) : Reading Text := do
  let name ← takeUntil terminator "group name".toList
  if !Text.isUnicodeIdentifier name then fail (.badGroupName name) (name.length + 1)
  return name

def namedGroup (d : Draft) (name : Text) : Reading Nat := do
  match d.names.lookup name with
  | some group => return group
  | none => fail (.unknownGroupName name) (name.length + 1)

def openCapture (d : Draft) (start : Nat) (name : Option Text) : Reading Draft := do
  let group := d.groups.length + 1
  let d := { d with groups := d.groups ++ [none] }
  match name with
  | none => return d.openGroup (.capture group) start
  | some name =>
      if let some earlier := d.names.lookup name then
        fail (.redefinedGroup name group earlier) (name.length + 1)
      return { d with names := (name, group) :: d.names }.openGroup (.capture group) start

def groupLimit : Nat := 1073741823

def readCondition (d : Draft) (start : Nat) : Reading Draft := do
  let name ← takeUntil ')' "group name".toList
  let back := name.length + 1
  let (group, conditions) ←
    if Text.isUnicodeIdentifier name then pure (← namedGroup d name, d.conditions)
    else match Text.integer? name with
      | some (.ofNat 0) => fail .badGroupNumber back
      | some (.ofNat group) =>
          if group ≥ groupLimit then fail (.noSuchGroup group) back
          if (d.conditions.lookup group).isSome then pure (group, d.conditions)
          else pure (group, d.conditions ++ [(group, (← offset) - back)])
      | _ => fail (.badGroupName name) back
  checkBehind d group
  return { d with conditions := conditions }.openGroup (.ifCaptured group) start

def skipComment (start : Nat) : (n : Nat) → Reading Unit
  | 0 => unterminated
  | n + 1 => do
      let some t ← take | unterminated
      if t ≠ [')'] then skipComment start n
where
  unterminated : Reading Unit := do
    fail (.unterminated [')'] "comment".toList) ((← offset) - start)

def openLook (d : Draft) (start : Nat) (kind : GroupKind) : Draft :=
  { d.openGroup kind start with
    behindLimit := match kind with
      | .behind _ => some (d.behindLimit.getD (d.groups.length + 1))
      | _ => d.behindLimit }

def readExtension (d : Draft) (start : Nat) : Reading Draft := do
  let some t ← take | fail .unexpectedEnd 0
  match t with
  | ['P'] =>
      if ← accept ['<'] then return (← openCapture d start (some (← readName '>')))
      if ← accept ['='] then
        let name ← readName ')'
        return (← repeatGroup d (← namedGroup d name) (name.length + 1))
      let some t ← take | fail .unexpectedEnd 0
      fail (.unknownExtension ("?P".toList ++ t)) (t.length + 2)
  | [':'] => return d.openGroup .plain start
  | ['#'] =>
      skipComment start ((← get).rest.length + 1)
      return d
  | ['='] => return openLook d start (.ahead false)
  | ['!'] => return openLook d start (.ahead true)
  | ['<'] =>
      let some t ← take | fail .unexpectedEnd 0
      if t = ['='] then return openLook d start (.behind false)
      if t = ['!'] then return openLook d start (.behind true)
      fail (.unknownExtension ("?<".toList ++ t)) (t.length + 2)
  | ['('] => readCondition d start
  | ['>'] => return d.openGroup .atomic start
  | _ =>
      if (flagLetter t).isSome || t = ['-'] then readFlagGroup d start t
      else fail (.unknownExtension ('?' :: t)) (t.length + 1)

def skipLine : (n : Nat) → Reading Unit
  | 0 => pure ()
  | n + 1 => do
      let t ← take
      if t.any (· ≠ ['\n']) then skipLine n

def isLayout (c : Char) : Bool :=
  c == ' ' || (0x9 ≤ c.toNat && c.toNat ≤ 0xd)

def readPlain (d : Draft) (start : Nat) (c : Char) : Reading Draft := do
  match c with
  | '[' => readSet d
  | '?' => quantify d 0 (some 1) start
  | '*' => quantify d 0 none start
  | '+' => quantify d 1 none start
  | '{' =>
      match ← readBounds with
      | some (least, most) => quantify d least most start
      | none => return d.literal c.toNat
  | '.' => return d.leaf (.any d.flags.dotAll)
  | '(' => if ← accept ['?'] then readExtension d start else openCapture d start none
  | '^' =>
      return d.push (.anchor (if d.flags.multiline then .lineStart else .textStart)) .anchor
  | '$' =>
      return d.push (.anchor (if d.flags.multiline then .lineEnd else .lastEnd)) .anchor
  | _ => return d.literal c.toNat

def endBranch (d : Draft) : Reading Draft := do
  if let ⟨.ifCaptured _, _, _, _, _, _⟩ :: _ := d.frames then
    if !d.branches.isEmpty then fail .thirdBranch 0
  discard take
  return { d with items := [], branches := d.branch :: d.branches }

def endGroup (d : Draft) (f : Frame) (outer : List Frame) : Reading Draft := do
  discard take
  let body := Piece.sequence d.body
  let one (n : Node) : List Piece := [.other n]
  let pieces := match f.kind with
    | .plain => d.body
    | .flagged => one (.group body)
    | .capture group => one (.capture group body)
    | .atomic => one (.atomic body)
    | .ahead negated => one (.ahead negated body)
    | .behind negated => one (.behind negated body)
    | .ifCaptured group =>
        let last := Piece.sequence d.branch
        one (match d.branches with
          | yes :: _ => .ifCaptured group (Piece.sequence yes) last
          | [] => .ifCaptured group last .empty)
  let groups := match f.kind with
    | .capture group => d.groups.set (group - 1) (some body.width)
    | _ => d.groups
  return { d with
    flags := f.flags
    items := ⟨pieces, .plain⟩ :: f.items
    branches := f.branches
    frames := outer
    groups := groups
    behindLimit := f.behindLimit }

def finish (d : Draft) : Reading Draft := do
  if let f :: _ := d.frames then
    fail (.unterminated [')'] "subpattern".toList) ((← offset) - f.start)
  if d.flags.ascii && d.flags.unicode then throw ⟨.asciiAndUnicode, none⟩
  if (← peek).isSome then fail .unbalancedClose 0
  if let some (group, place) := d.conditions.find? fun c => c.1 > d.groups.length then
    throw ⟨.noSuchGroup group, some place⟩
  return d

def readAll : (n : Nat) → Draft → Reading Draft
  | 0, d => finish d
  | n + 1, d => do
      let start ← offset
      match ← peek with
      | none => finish d
      | some ['|'] => readAll n (← endBranch d)
      | some [')'] =>
          match d.frames with
          | [] => finish d
          | f :: outer => readAll n (← endGroup d f outer)
      | some t =>
          discard take
          match t with
          | [c] =>
              if d.flags.verbose && isLayout c then readAll n d
              else if d.flags.verbose && c == '#' then
                skipLine ((← get).rest.length + 1)
                readAll n d
              else readAll n (← readPlain d start c)
          | ['\\', c] => readAll n (← readEscape d c)
          | _ => readAll n d

end HeaderProbe.Pattern

namespace HeaderProbe

def Pattern.read (source : Text) : Except Pattern.Error Pattern := do
  let cursor ← Pattern.Cursor.ofPattern source
  let (draft, _) ← Pattern.readAll (cursor.rest.length + 1) {} |>.run cursor
  let root := Pattern.Piece.sequence draft.body
  match root.fault? draft.flags.template with
  | some fault => .error ⟨fault, none⟩
  | none =>
      if root.looksTooFar then .error ⟨.tooFarBehind, none⟩
      else .ok ⟨source, draft.flags, root⟩

end HeaderProbe
