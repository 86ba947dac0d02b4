import HeaderProbe.Query.Basic

namespace HeaderProbe

def DeclKind.word : DeclKind → Text
  | function => "fun".toList
  | struct => "struct".toList
  | enum => "enum".toList
  | define => "macro".toList

def DeclKind.all : List DeclKind :=
  [.function, .struct, .enum, .define]

def DeclKind.ofWord? (w : Text) : Option DeclKind :=
  all.find? (·.word == w)

namespace Subject

def words : Subject → List Text
  | declaration kind name => [kind.word, name]
  | member field type => ["method".toList, field, "of".toList, type]
  | initializer field type which =>
      match which with
      | .first => ["initializer".toList, field, "of".toList, type]
      | .any => ["any".toList, "initializer".toList, field, "of".toList, type]
      | .named v => ["initializer".toList, field, "of".toList, type, "instance".toList, v]

def print (s : Subject) : Text :=
  [' '].intercalate s.words

end Subject

namespace Test

def word : Test → Text
  | presence => "presence".toList
  | has _ => "matches".toList
  | lacks _ => "lacks".toList
  | absent => "absent".toList

def pattern? : Test → Option Pattern
  | has p => some p
  | lacks p => some p
  | _ => none

def print (t : Test) : Text :=
  match t with
  | presence => []
  | absent => t.word
  | has p => t.word ++ " '".toList ++ p.source ++ ['\x27']
  | lacks p => t.word ++ " '".toList ++ p.source ++ ['\x27']

end Test

def Pattern.print (p : Pattern) : Text :=
  "re.compile(".toList ++ (Text.quoted p.source).take 200 ++
    (if flagNames.isEmpty then [] else ", ".toList ++ ['|'].intercalate flagNames) ++ [')']
where
  flagNames : List Text :=
    [(p.flags.template, "re.TEMPLATE"), (p.flags.ignoreCase, "re.IGNORECASE"),
      (p.flags.multiline, "re.MULTILINE"), (p.flags.dotAll, "re.DOTALL"),
      (p.flags.verbose, "re.VERBOSE"), (p.flags.ascii, "re.ASCII")].filterMap
        fun (on, name) => if on then some name.toList else none

structure TestMismatch where
  word : Text
  pattern : Option Pattern

def TestMismatch.message (m : TestMismatch) : Text :=
  m.word ++ ": pattern ".toList ++ (m.pattern.map Pattern.print).getD "None".toList

def Test.ofWord? (word : Text) (pattern : Option Pattern) : Except TestMismatch Test :=
  match pattern with
  | some p =>
      if word = "matches".toList then .ok (.has p)
      else if word = "lacks".toList then .ok (.lacks p)
      else .error ⟨word, pattern⟩
  | none =>
      if word = "presence".toList then .ok .presence
      else if word = "absent".toList then .ok .absent
      else .error ⟨word, none⟩

def breakCommentEnd : Text → Text
  | '*' :: '/' :: r => '*' :: ' ' :: '/' :: breakCommentEnd r
  | c :: r => c :: breakCommentEnd r
  | [] => []

def defineLine (name comment : Text) : Text :=
  "#define ".toList ++ name ++ " 1 /* ".toList ++ breakCommentEnd comment ++ " */\n".toList

end HeaderProbe
