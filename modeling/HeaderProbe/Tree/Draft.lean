import HeaderProbe.Text.Number
import HeaderProbe.Tree.Basic

namespace HeaderProbe

structure Draft (t : Tree) where
  directory : Location
  name : Text
  vacant : t.entry? (directory ++ [name]) = none
  deriving DecidableEq

namespace Draft

variable {t : Tree}

def location (d : Draft t) : Location :=
  d.directory ++ [d.name]

def made (d : Draft t) : Tree :=
  t.set d.location (.file [])

def nameFor (path mark : Text) : Text :=
  '.' :: (Path.steps path).getLast?.getD [] ++ '.' :: mark

def marks : List Text :=
  (List.range 10000).map fun n =>
    let digits := Text.ofNat n
    List.replicate (8 - digits.length) '0' ++ digits

end Draft

namespace Tree

def draftIn (t : Tree) (directory : Location) :
    (names : List Text) → Except (PathFault × Location) (Draft t)
  | [] => .error (.taken, directory)
  | name :: rest =>
      let l := directory ++ [name]
      match t.walk [] directory with
      | .error fault => .error (fault, l)
      | .ok _ =>
          if t.entry? directory ≠ some .directory then .error (.missing, l)
          else if (Utf8.encode name).length > longestName then .error (.nameTooLong, l)
          else if (Utf8.encode (Path.absolute l)).length > longestPath then .error (.nameTooLong, l)
          else if h : t.entry? l = none then .ok ⟨directory, name, h⟩
          else t.draftIn directory rest

def draft (t : Tree) (path : Text) (marks : List Text) :
    Except (PathFault × Location) (Draft t) :=
  t.draftIn (Path.follow (t.base path) (Path.steps path).dropLast)
    (marks.map (Draft.nameFor path))

end Tree

end HeaderProbe
