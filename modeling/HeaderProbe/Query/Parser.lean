import HeaderProbe.Query.Error
import HeaderProbe.Query.Printer
import HeaderProbe.Pattern.Reader

namespace HeaderProbe

def isName : Text → Bool
  | [] => false
  | c :: r =>
      (c.isAlpha || c == '_') &&
        (r.dropWhile Text.isWordChar == [] || r.dropWhile Text.isWordChar == ['\n'])

abbrev QueryReader := StateT (List Text) (Except Complaint)

namespace QueryReader

def next (what : Expected) : QueryReader Text := do
  match ← get with
  | [] => throw (.missing what)
  | w :: rest =>
      set rest
      return w

def keyword (word : Text) : QueryReader Unit := do
  let w ← next (.keyword word)
  if w ≠ word then throw (.notKeyword word w)

def name (what : Expected) : QueryReader Text := do
  let w ← next what
  if !isName w then throw (.bad what w)
  return w

def accept (word : Text) : QueryReader Bool := do
  match ← get with
  | [] => return false
  | w :: rest =>
      if w = word then
        set rest
        return true
      return false

def instances (any : Bool) : QueryReader Instances := do
  if ← accept "instance".toList then
    if any then throw .anyWithInstance
    return .named (← name .instanceName)
  return if any then .any else .first

def subject : QueryReader Subject := do
  let any ← accept "any".toList
  let word ← next .kind
  if word = "initializer".toList then
    let field ← name .fieldName
    keyword "of".toList
    let type ← name .structName
    return .initializer field type (← instances any)
  else if word = "method".toList then
    if any then throw .anyWithoutInitializer
    let field ← name .fieldName
    keyword "of".toList
    return .member field (← name .structName)
  else
    let some kind := DeclKind.ofWord? word | throw (.unknownKind word)
    if any then throw .anyWithoutInitializer
    return .declaration kind (← name .name)

def pattern : QueryReader Pattern := do
  let source ← next .pattern
  match Pattern.read source with
  | .ok p => return p
  | .error e => throw (.badPattern source e)

def test : QueryReader Test := do
  if ← accept "matches".toList then return .has (← pattern)
  if ← accept "lacks".toList then return .lacks (← pattern)
  if ← accept "absent".toList then return .absent
  return .presence

def files (literal : Option Text) (label : Text) : List Text → Except Complaint (List FileRef)
  | [] => .ok []
  | w :: rest => do
      let f ←
        if w = literalMark then
          match literal with
          | none => .error .noLiteral
          | some t => .ok (.literal t label)
        else .ok (.path w)
      return f :: (← files literal label rest)

def query (literal : Option Text) (label : Text) : QueryReader Query := do
  let define ← name .define
  keyword "if".toList
  let subject ← subject
  let test ← test
  keyword "in".toList
  let words ← get
  let files ← files literal label words
  if files.isEmpty then throw .missingFiles
  return ⟨define, subject, test, files⟩

end QueryReader

def Complaint.inWords (words : List Text) : Complaint → QueryError
  | badPattern source e =>
      if e.errorClass = .syntactic then .grammar (.badPattern source e) words else .pattern source e
  | c => .grammar c words

def dropLeadingGen : List Text → List Text
  | [] => []
  | w :: rest => if w = "gen".toList then rest else w :: rest

def Query.ofWords (words : List Text) (literal : Option Text) (label : Text) :
    Except QueryError Query :=
  let words := dropLeadingGen words
  match (QueryReader.query literal label).run words with
  | .ok (q, _) => .ok q
  | .error c => .error (c.inWords words)

def Query.ofLine (line : Text) (literal : Option Text) (label : Text) : Except QueryError Query :=
  match ShellWords.split line with
  | .ok words => ofWords words literal label
  | .error fault => .error (.quoting fault line)

end HeaderProbe
