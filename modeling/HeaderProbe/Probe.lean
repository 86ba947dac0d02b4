import HeaderProbe.Outcome
import HeaderProbe.Query.Locate
import HeaderProbe.Query.Parser
import HeaderProbe.Query.Verdict
import HeaderProbe.Tree.Basic

namespace HeaderProbe

inductive Source where
  | literal (text label : Text)
  | file (path label : Text)
  deriving DecidableEq, Repr

def Source.label : Source → Text
  | literal _ l => l
  | file _ l => l

def Source.read (now : Tree) : Source → Except ProbeError Text
  | literal t _ => .ok t
  | file path _ =>
      match now.text? path with
      | some t => .ok t
      | none => .error (.unreadable path none)

def Tree.hasContent (t : Tree) (root path : Text) : Bool :=
  (t.bytes? (Path.join root path)).any fun b => !b.isEmpty

def FileRef.source? (t : Tree) (root : Text) : FileRef → Option Source
  | literal text label => some (.literal text label)
  | path p => if t.hasContent root p then some (.file (Path.join root p) p) else none

def resolve (seen : Tree) (root : Text) : List FileRef → Outcome (List Source)
  | [] => pure []
  | f :: rest => do
      match f.source? seen root with
      | some s => return s :: (← resolve seen root rest)
      | none =>
          .record .debug ("Skipping missing or empty ".toList ++ f.label)
          resolve seen root rest

def ProbeError.evaluating (define : Text) : ProbeError → ProbeError
  | unreadable path _ => unreadable path (some define)
  | e => e

def Query.firstMatch (q : Query) (now : Tree) :
    List Source → Except ProbeError (Option (Source × Span × List Span))
  | [] => .ok none
  | s :: rest =>
      match s.read now with
      | .error e => .error (e.evaluating q.define)
      | .ok t =>
          match q.subject.locate t with
          | [] => q.firstMatch now rest
          | first :: others => .ok (some (s, first, others))

def Test.verdict (t : Test) (label : Text) (s : Span) : Except ProbeError Verdict :=
  let hit := t.hit? (some s)
  if hit.any (·.isCrossed) then .error .crossedGroup
  else .ok (t.verdictOn (some s) hit (label ++ ':' :: Text.ofNat s.line))

def Test.firstVerdict (t : Test) (label : Text) (s : Span) :
    (rest : List Span) → Except ProbeError Verdict
  | [] => t.verdict label s
  | next :: rest => do
      let v ← t.verdict label s
      if v.holds then return v
      t.firstVerdict label next rest

def Query.evaluate (q : Query) (root : Text) (seen now : Tree) : Outcome Verdict := do
  let sources ← resolve seen root q.files
  match ← Outcome.ofExcept (q.firstMatch now sources) with
  | none => return q.test.judge none ([' '].intercalate (q.files.map FileRef.label))
  | some (s, first, others) => Outcome.ofExcept (q.test.firstVerdict s.label first others)

def Query.generate (q : Query) (root : Text) (seen now : Tree) : Outcome Bool := do
  let v ← q.evaluate root seen now
  .record .debug (q.define ++ ": ".toList ++ q.subject.print ++ ' ' :: v.evidence ++ ": ".toList ++
    if v.holds then "True".toList else "False".toList)
  if v.holds then .write (defineLine q.define (q.subject.print ++ ' ' :: v.evidence))
  return v.holds

def firstDeclaration (kind : DeclKind) (name : Text) (now : Tree) :
    List Source → Except ProbeError Text
  | [] => .ok []
  | s :: rest => do
      match kind.find name (← s.read now) with
      | some span => return span.text
      | none => firstDeclaration kind name now rest

def extract (kind name : Text) (files : List Text) (root : Text) (seen now : Tree) :
    Outcome Text := do
  let some kind := DeclKind.ofWord? kind | .fail (.unknownKind kind name)
  let sources ← resolve seen root (files.map FileRef.path)
  Outcome.ofExcept (firstDeclaration kind name now sources)

end HeaderProbe
