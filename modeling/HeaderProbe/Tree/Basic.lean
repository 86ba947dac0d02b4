import HeaderProbe.Text.Utf8
import HeaderProbe.Text.Newline
import HeaderProbe.Tree.Path

namespace HeaderProbe

inductive Entry where
  | file (content : List UInt8)
  | directory
  deriving DecidableEq, Repr

/-- Files and directories by location, and the directory that relative paths begin at. The top is a
directory without an entry, and its own parent. -/
structure Tree where
  entries : List (Location × Entry) := []
  current : Location := []
  deriving DecidableEq, Repr

inductive PathFault where
  | missing
  | taken
  | isDirectory
  | nameTooLong
  | occupied
  deriving DecidableEq, Repr

def longestName : Nat := 255

def longestPath : Nat := 4095

namespace Tree

def entry? (t : Tree) (l : Location) : Option Entry :=
  if l = [] then some .directory else t.entries.lookup l

def set (t : Tree) (l : Location) (e : Entry) : Tree :=
  { t with entries := (l, e) :: t.entries.filter (·.1 ≠ l) }

def unlink (t : Tree) (l : Location) : Tree :=
  { t with entries := t.entries.filter (·.1 ≠ l) }

def move (t : Tree) (l m : Location) : Tree :=
  match t.entry? l with
  | some e => (t.unlink l).set m e
  | none => t

def erase (t : Tree) (l : Location) : Tree :=
  { t with entries := t.entries.filter fun e => !l.isPrefixOf e.1 }

def makeDirectories (t : Tree) (l : Location) : Location → Tree
  | [] => t
  | name :: rest =>
      let next := l ++ [name]
      let t := if (t.entry? next).isNone then t.set next .directory else t
      makeDirectories t next rest

def write (t : Tree) (l : Location) (content : List UInt8) : Tree :=
  (t.makeDirectories [] l.dropLast).set l (.file content)

def names (t : Tree) (l : Location) : List Text :=
  let inside := t.entries.filterMap fun (m, _) =>
    if m.dropLast = l then m.getLast? else none
  inside.mergeSort fun a b => !decide (b < a)

def base (t : Tree) (path : Text) : Location :=
  if Path.isAbsolute path then [] else t.current

def walk (t : Tree) : Location → List Text → Except PathFault Location
  | l, [] => .ok l
  | l, name :: rest =>
      if t.entry? l ≠ some .directory then .error .missing
      else if name = ['.', '.'] then walk t l.dropLast rest
      else if (Utf8.encode name).length > longestName then .error .nameTooLong
      else if (t.entry? (l ++ [name])).isNone then .error .missing
      else walk t (l ++ [name]) rest

def locate (t : Tree) (path : Text) : Except PathFault Location :=
  if path.contains '\x00' then .error .missing
  else if (Utf8.encode (Path.plain path)).length > longestPath then .error .nameTooLong
  else t.walk (t.base path) (Path.steps path)

def find? (t : Tree) (path : Text) : Option Entry :=
  match t.locate path with
  | .ok l => t.entry? l
  | .error _ => none

def bytes? (t : Tree) (path : Text) : Option (List UInt8) :=
  match t.find? path with
  | some (.file content) => some content
  | _ => none

def text? (t : Tree) (path : Text) : Option Text :=
  (t.bytes? path).map fun b => Text.unifyLineEnds (Utf8.decode b)

def directoryAt? (t : Tree) (path : Text) : Option Location :=
  match t.locate path with
  | .ok l => if t.entry? l = some .directory then some l else none
  | .error _ => none

def slot (t : Tree) (path : Text) : Except PathFault Location :=
  if path.contains '\x00' then .error .missing
  else if (Utf8.encode (Path.plain path)).length > longestPath then .error .nameTooLong
  else match Path.leaf? path, t.walk (t.base path) (Path.steps path).dropLast with
    | none, _ => .error .isDirectory
    | some _, .error fault => .error fault
    | some name, .ok l =>
        if t.entry? l ≠ some .directory then .error .missing
        else if (Utf8.encode name).length > longestName then .error .nameTooLong
        else .ok (l ++ [name])

/-- Moves a file to a path: into the directory there, under its own name, or else in place of the file
there. A fault comes with the path that it is about. -/
def rename (t : Tree) (l : Location) (path : Text) : Except (PathFault × Text) Tree :=
  match t.directoryAt? path with
  | some directory =>
      let name := l.getLast?.getD []
      let inside := Path.child path name
      if (Utf8.encode inside).length > longestPath then .error (.nameTooLong, inside)
      else if (t.entry? (directory ++ [name])).isSome then .error (.occupied, inside)
      else .ok (t.move l (directory ++ [name]))
  | none =>
      match t.slot path with
      | .ok m => .ok (t.move l m)
      | .error fault => .error (fault, Path.plain path)

def isTooLong (t : Tree) (path : Text) : Bool :=
  match t.locate path with
  | .error .nameTooLong => true
  | _ => false

def target (t : Tree) (path : Text) : Location :=
  Path.follow (t.base path) (Path.steps path)

end Tree

end HeaderProbe
