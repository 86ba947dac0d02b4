import HeaderProbe.Pattern.Node

namespace HeaderProbe

inductive DeclKind where
  | function
  | struct
  | enum
  | define
  deriving DecidableEq, Repr

inductive Instances where
  | first
  | any
  | named (name : Text)
  deriving DecidableEq, Repr

inductive Subject where
  | declaration (kind : DeclKind) (name : Text)
  | member (field type : Text)
  | initializer (field type : Text) (which : Instances)
  deriving DecidableEq, Repr

inductive Test where
  | presence
  | has (pattern : Pattern)
  | lacks (pattern : Pattern)
  | absent
  deriving Repr

inductive FileRef where
  | path (path : Text)
  | literal (text label : Text)
  deriving DecidableEq, Repr

structure Query where
  define : Text
  subject : Subject
  test : Test
  files : List FileRef
  deriving Repr

def literalMark : Text := ['-']

def FileRef.label : FileRef → Text
  | path p => p
  | literal _ l => l

def FileRef.path? : FileRef → Option Text
  | path p => some p
  | literal .. => none

def Query.paths (q : Query) : List Text :=
  q.files.filterMap FileRef.path?

end HeaderProbe
