import HeaderProbe.Query.Error
import HeaderProbe.Text.Quoted
import HeaderProbe.Tree.Basic

namespace HeaderProbe

def PathFault.message (path : Text) : PathFault → Text
  | missing => "[Errno 2] No such file or directory: ".toList ++ Text.quoted path
  | taken => "[Errno 17] No usable temporary file name found".toList
  | isDirectory => "[Errno 21] Is a directory: ".toList ++ Text.quoted path
  | nameTooLong => "[Errno 36] File name too long: ".toList ++ Text.quoted path
  | occupied => "Destination path '".toList ++ path ++ "' already exists".toList

inductive ProbeError where
  | query (e : QueryError)
  | unknownKind (kind name : Text)
  | unknownFragment (fragment query : Text)
  | unreadable (path : Text) (define : Option Text)
  | noSourceTree (label marker : Text) (contents : Option (List Text))
  | noConfig (path : Option Text)
  | system (fault : PathFault) (path : Text)
  | crossedGroup
  deriving DecidableEq, Repr

namespace ProbeError

inductive Class where
  | catalog
  | sourceTree
  | configFile
  | sourceRead
  | pattern (c : Pattern.ErrorClass)
  | system
  | internal
  deriving DecidableEq, Repr

def errorClass : ProbeError → Class
  | query (.pattern _ e) => .pattern e.errorClass
  | query _ => .catalog
  | unknownKind .. => .catalog
  | unknownFragment .. => .catalog
  | unreadable .. => .sourceRead
  | noSourceTree .. => .sourceTree
  | noConfig _ => .configFile
  | system .. => .system
  | crossedGroup => .internal

def Class.exitCode? : Class → Option Nat
  | catalog => some 1
  | sourceTree => some 8
  | configFile => some 9
  | sourceRead => some 1
  | pattern _ => none
  | system => none
  | internal => none

def listing : Option (List Text) → Text
  | none => "(not a directory)".toList
  | some [] => "(empty)".toList
  | some names => ['\n'].intercalate names

def message : ProbeError → Text
  | query e => e.message
  | unknownKind kind name => "unknown kind '".toList ++ kind ++ "' to extract ".toList ++ name
  | unknownFragment fragment line =>
      "unknown fragment ".toList ++ fragment ++ inQuery ++ line
  | unreadable path define =>
      "failed to read ".toList ++ path ++ ": ".toList ++ PathFault.missing.message path ++
        match define with
        | none => []
        | some d => " (evaluating ".toList ++ d ++ [')']
  | noSourceTree label marker contents =>
      "seems that there are no kernel includes placed in KSRC=".toList ++ label ++
        ": missing ".toList ++ marker ++ "; contents:\n".toList ++ listing contents
  | noConfig path =>
      ".config should be passed as --conffile or env CONFFILE (and it's not set or not a file): ".toList
        ++ path.getD "None".toList
  | system fault path => fault.message path
  | crossedGroup =>
      "The span of capturing group is wrong, please report a bug for the re module.".toList

end ProbeError

end HeaderProbe
