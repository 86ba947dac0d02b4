import HeaderProbe.Pattern.Fault
import HeaderProbe.Pattern.Folding

namespace HeaderProbe.Pattern

inductive Anchor where
  | textStart
  | lineStart
  | textEnd
  | lastEnd
  | lineEnd
  | wordEdge (ascii negated : Bool)
  deriving DecidableEq, Repr

def countLimit : Nat := 4294967295

structure Width where
  least : Nat
  most : Nat
  deriving DecidableEq, Repr

inductive Greed where
  | greedy
  | lazy
  | possessive
  deriving DecidableEq, Repr

inductive Node where
  | empty
  | one (test : CharTest)
  | anchor (a : Anchor)
  | seq (first second : Node)
  | either (first second : Node)
  | repeated (greed : Greed) (least : Nat) (most : Option Nat) (body : Node)
  | group (body : Node)
  | capture (number : Nat) (body : Node)
  | sameText (number : Nat) (folding : Folding) (width : Width)
  | ifCaptured (number : Nat) (yes no : Node)
  | ahead (negated : Bool) (body : Node)
  | behind (negated : Bool) (body : Node)
  | atomic (body : Node)
  deriving Repr

namespace Width

def zero : Width := ⟨0, 0⟩

def unit : Width := ⟨1, 1⟩

def clamp (least most : Nat) : Width :=
  ⟨min least (countLimit - 1), min most countLimit⟩

def add (a b : Width) : Width :=
  clamp (a.least + b.least) (a.most + b.most)

def join (a b : Width) : Width :=
  ⟨min a.least b.least, max a.most b.most⟩

def scale (w : Width) (least : Nat) (most : Option Nat) : Width :=
  clamp (w.least * least) (w.most * most.getD countLimit)

end Width

namespace Node

def width : Node → Width
  | empty => .zero
  | one _ => .unit
  | anchor _ => .zero
  | seq a b => a.width.add b.width
  | either a b => a.width.join b.width
  | repeated _ least most body => body.width.scale least most
  | group body => body.width
  | capture _ body => body.width
  | sameText _ _ w => w
  | ifCaptured _ yes no => yes.width.join no.width
  | ahead .. => .zero
  | behind .. => .zero
  | atomic body => body.width

def sequence : List Node → Node
  | [] => empty
  | [n] => n
  | n :: rest => seq n (sequence rest)

def isEither : Node → Bool
  | either .. => true
  | _ => false

def alternatives : List Node → Node
  | [] => empty
  | [n] => if n.isEither then group n else n
  | n :: rest => either n (alternatives rest)

def single? : Node → Option CharTest
  | one t => some t
  | group body => body.single?
  | _ => none

def isVoid : Node → Bool
  | empty => true
  | seq a b => a.isVoid && b.isVoid
  | group body => body.isVoid
  | _ => false

def opening : Node → (rest : Option CharTest) → Option CharTest
  | empty, rest => rest
  | one t, _ => some t
  | seq a b, rest => if a.isVoid then b.opening rest else a.opening none
  | group body, rest => body.opening rest
  | _, _ => none

def fault? (template : Bool) : Node → Option Fault
  | seq a b => (a.fault? template).or (b.fault? template)
  | either a b => (a.fault? template).or (b.fault? template)
  | repeated greed _ _ body =>
      if template then some (.templateRepeat (operator greed)) else body.fault? template
  | group body => body.fault? template
  | capture _ body => body.fault? template
  | ifCaptured _ yes no => (yes.fault? template).or (no.fault? template)
  | ahead _ body => body.fault? template
  | behind _ body =>
      if body.width.most = body.width.least then body.fault? template else some .variableLookbehind
  | atomic body => body.fault? template
  | _ => none
where
  operator : Greed → Text
    | .greedy => "MAX_REPEAT".toList
    | .lazy => "MIN_REPEAT".toList
    | .possessive => "POSSESSIVE_REPEAT".toList

def behindLimit : Nat := 0x80000000

def looksTooFar : Node → Bool
  | seq a b => a.looksTooFar || b.looksTooFar
  | either a b => a.looksTooFar || b.looksTooFar
  | repeated _ _ _ body => body.looksTooFar
  | group body => body.looksTooFar
  | capture _ body => body.looksTooFar
  | ifCaptured _ yes no => yes.looksTooFar || no.looksTooFar
  | ahead _ body => body.looksTooFar
  | behind _ body => behindLimit ≤ body.width.least || body.looksTooFar
  | atomic body => body.looksTooFar
  | _ => false

end Node

structure Flags where
  ignoreCase : Bool := false
  multiline : Bool := false
  dotAll : Bool := false
  verbose : Bool := false
  ascii : Bool := false
  unicode : Bool := false
  template : Bool := false
  deriving DecidableEq, Repr

def Flags.folding (f : Flags) : Folding :=
  if f.ignoreCase then if f.ascii then .ascii else .unicode else .exact

end HeaderProbe.Pattern

namespace HeaderProbe

structure Pattern where
  source : Text
  flags : Pattern.Flags
  root : Pattern.Node
  deriving Repr

end HeaderProbe
