import HeaderProbe.Pattern.Fault
import HeaderProbe.Text.ShellWords

namespace HeaderProbe

inductive Expected where
  | keyword (word : Text)
  | define
  | kind
  | fieldName
  | structName
  | instanceName
  | name
  | pattern
  deriving DecidableEq, Repr

def Expected.print : Expected → Text
  | keyword w => '\x27' :: w ++ ['\x27']
  | define => "define".toList
  | kind => "kind".toList
  | fieldName => "field name".toList
  | structName => "struct name".toList
  | instanceName => "instance name".toList
  | name => "name".toList
  | pattern => "pattern".toList

inductive Complaint where
  | missing (what : Expected)
  | notKeyword (word got : Text)
  | bad (what : Expected) (got : Text)
  | unknownKind (word : Text)
  | anyWithoutInitializer
  | anyWithInstance
  | badPattern (source : Text) (error : Pattern.Error)
  | noLiteral
  | missingFiles
  deriving DecidableEq, Repr

def Complaint.print : Complaint → Text
  | missing what => "missing ".toList ++ what.print
  | notKeyword word got => "expected '".toList ++ word ++ "', got '".toList ++ got ++ ['\x27']
  | bad what got => "bad ".toList ++ what.print ++ " '".toList ++ got ++ ['\x27']
  | unknownKind word => "unknown kind '".toList ++ word ++ ['\x27']
  | anyWithoutInitializer => "'any' only applies to 'initializer'".toList
  | anyWithInstance => "'any' and 'instance' exclude each other".toList
  | badPattern source error =>
      "bad pattern '".toList ++ source ++ "': ".toList ++ error.message source
  | noLiteral => "'-' given without literal text".toList
  | missingFiles => "missing files after 'in'".toList

inductive QueryError where
  | grammar (complaint : Complaint) (words : List Text)
  | quoting (fault : ShellWords.Fault) (line : Text)
  | pattern (source : Text) (error : Pattern.Error)
  deriving DecidableEq, Repr

def inQuery : Text := " in query: ".toList

def QueryError.message : QueryError → Text
  | grammar complaint words =>
      complaint.print ++ inQuery ++ "gen ".toList ++ ShellWords.join words
  | quoting fault line => fault.message ++ inQuery ++ line
  | pattern source error => error.message source

end HeaderProbe
