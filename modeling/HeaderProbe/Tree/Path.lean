import HeaderProbe.Text.Blank

namespace HeaderProbe

abbrev Location := List Text

namespace Path

def parts : Text → List Text
  | [] => [[]]
  | c :: r =>
      if c = '/' then [] :: parts r
      else match parts r with
        | [] => [[c]]
        | p :: ps => (c :: p) :: ps

def steps (path : Text) : List Text :=
  (parts path).filter fun p => !p.isEmpty && p != ['.']

def isAbsolute (path : Text) : Bool :=
  path.head? == some '/'

def root (path : Text) : Text :=
  match path with
  | '/' :: '/' :: '/' :: _ => ['/']
  | '/' :: '/' :: _ => ['/', '/']
  | '/' :: _ => ['/']
  | _ => []

def plain (path : Text) : Text :=
  let t := root path ++ ['/'].intercalate (steps path)
  if t.isEmpty then ['.'] else t

def join (directory path : Text) : Text :=
  if isAbsolute path then plain path
  else if directory.isEmpty then plain path
  else plain (directory ++ '/' :: path)

def child (directory name : Text) : Text :=
  let directory := plain directory
  if directory.getLast? = some '/' then directory ++ name else directory ++ '/' :: name

def stages (path : Text) : List Text :=
  (List.range (steps path).length).map fun n =>
    root path ++ ['/'].intercalate ((steps path).take (n + 1))

def leaf? (path : Text) : Option Text :=
  (steps path).getLast?.filter (· ≠ ['.', '.'])

def follow (l : Location) (steps : List Text) : Location :=
  steps.foldl (fun l name => if name = ['.', '.'] then l.dropLast else l ++ [name]) l

def absolute (l : Location) : Text :=
  l.flatMap ('/' :: ·)

end Path

end HeaderProbe
