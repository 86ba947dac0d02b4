import HeaderProbe.Query.Basic
import HeaderProbe.Source.Define
import HeaderProbe.Source.Initializer
import HeaderProbe.Source.Member

namespace HeaderProbe

def DeclKind.find : DeclKind → (name text : Text) → Option Span
  | function => findFunction
  | struct => findStruct
  | enum => findEnum
  | define => findDefine

def Subject.locate (text : Text) : Subject → List Span
  | declaration kind name => (kind.find name text).toList
  | member field type => (findMember type field text).toList
  | initializer field type .first => (findInitializers type field text none).take 1
  | initializer field type .any => findInitializers type field text none
  | initializer field type (.named v) => (findInitializers type field text (some v)).take 1

end HeaderProbe
