import HeaderProbe.Catalog.Builtin
import HeaderProbe.Config
import HeaderProbe.Probe
import HeaderProbe.Tree.Draft

namespace HeaderProbe

def marker : Text := "include/linux/kernel.h".toList

structure Settings where
  root : Option Text := none
  config : Option Text := none
  out : Option Text := none
  unitTesting : Bool := false
  catalog : Catalog := .builtin
  deriving DecidableEq, Repr

namespace Settings

def rootPath (s : Settings) : Text :=
  Path.plain (s.root.getD [])

def rootLabel (s : Settings) : Text :=
  (s.root.map Path.plain).getD []

end Settings

def CatalogGroup.obstacle? (g : CatalogGroup) (s : Settings) (config : Text) (t : Tree) :
    Option Text :=
  if s.unitTesting && !g.onRecord then some "not covered by unit tests".toList
  else match g.option.filter fun o => !o.isEmpty && !configEnabled config o with
    | some o => some (o ++ " is not enabled".toList)
    | none =>
        match g.requiredFile.filter fun f => !f.isEmpty && !t.hasContent s.rootPath f with
        | some f => some ("no ".toList ++ f)
        | none => none

def extractFragments (root : Text) (t : Tree) :
    List Fragment → List (Text × Text) → Outcome (List (Text × Text))
  | [], found => return found
  | f :: rest, found => do
      let text ← extract f.kind f.declaration f.files root t t
      extractFragments root t rest ((f.name, text) :: found)

def fragmentLabel (fragment : Option Text) : Text :=
  '<' :: fragment.getD "None".toList ++ ['>']

def CatalogEntry.runWith (e : CatalogEntry) (root : Text) (t : Tree) (literal : Option Text) :
    Outcome Unit :=
  match Query.ofLine e.query literal (fragmentLabel e.fragment) with
  | .error err => .fail (.query err)
  | .ok q => discard (q.generate root t t)

def CatalogEntry.run (e : CatalogEntry) (root : Text) (t : Tree) (fragments : List (Text × Text)) :
    Outcome Unit :=
  match e.fragment with
  | none => e.runWith root t none
  | some f =>
      match fragments.lookup f with
      | none => .fail (.unknownFragment f e.query)
      | some text => e.runWith root t (some text)

def runEntries (root : Text) (t : Tree) (fragments : List (Text × Text)) :
    List CatalogEntry → Outcome Unit
  | [] => return ()
  | e :: rest => do
      e.run root t fragments
      runEntries root t fragments rest

def CatalogGroup.run (g : CatalogGroup) (root : Text) (t : Tree) : Outcome Unit := do
  .record .info ("Generating ".toList ++ g.name)
  let fragments ← extractFragments root t g.fragments []
  runEntries root t fragments g.entries

def Catalog.run (s : Settings) (config : Text) (t : Tree) : Catalog → Outcome Unit
  | [] => return ()
  | g :: rest => do
      match g.obstacle? s config t with
      | some why => .record .info ("Skipping ".toList ++ g.name ++ ": ".toList ++ why)
      | none => g.run s.rootPath t
      Catalog.run s config t rest

def checkRoot (s : Settings) (t : Tree) : Except ProbeError Unit :=
  if t.hasContent s.rootPath marker then .ok ()
  else if t.isTooLong s.rootPath then .error (.system .nameTooLong s.rootPath)
  else
    let contents := match t.locate s.rootPath with
      | .ok l => if t.entry? l = some .directory then some (t.names l) else none
      | .error _ => none
    .error (.noSourceTree s.rootLabel (Path.join s.rootPath marker) contents)

def readConfig (s : Settings) (t : Tree) : Except ProbeError Text :=
  match s.config.map Path.plain with
  | none => .error (.noConfig none)
  | some path =>
      match t.text? path with
      | some config => .ok config
      | none =>
          if t.isTooLong path then .error (.system .nameTooLong path)
          else .error (.noConfig (some path))

def prepare (s : Settings) (t : Tree) : Except ProbeError Text := do
  checkRoot s t
  readConfig s t

def banner (rootLabel : Text) : Text :=
  "/* Autogenerated for KSRC=".toList ++ rootLabel ++ " via kcompat_generator.py */\n".toList

def column (n : Nat) : Text :=
  let digits := Text.ofNat n
  List.replicate (6 - digits.length) ' ' ++ digits

def echo (t : Text) : Text :=
  go 1 (Text.lines (Text.unifyLineEnds t))
where
  go : Nat → List Text → Text
    | _, [] => []
    | n, l :: rest => column n ++ '\t' :: l ++ go (n + 1) rest

structure Report where
  output : Text
  echo : Text
  log : List LogRecord
  tree : Tree
  error : Option ProbeError

def Report.failed (e : ProbeError) (t : Tree) : Report :=
  ⟨[], [], [], t, some e⟩

def runToOutput (s : Settings) (config : Text) (t : Tree) : Report :=
  let o := s.catalog.run s config t
  ⟨o.output, [], o.log, t, o.error?⟩

def Draft.publish {t : Tree} (d : Draft t) (path content : Text) : Except ProbeError Tree :=
  match (d.made.set d.location (.file (Utf8.encode content))).rename d.location path with
  | .ok u => .ok u
  | .error (fault, place) => .error (.system fault place)

def runToDraft (s : Settings) (config path : Text) {t : Tree} (d : Draft t) : Report :=
  let o := s.catalog.run s config d.made
  match o.value.bind fun _ => d.publish path (banner s.rootLabel ++ o.output) with
  | .error e => ⟨[], [], o.log, d.made.unlink d.location, some e⟩
  | .ok published =>
      let u := published.unlink d.location
      if s.unitTesting then ⟨[], [], o.log, u, none⟩
      else match u.bytes? path with
        | some content => ⟨[], echo (Utf8.decode content), o.log, u, none⟩
        | none => ⟨[], [], o.log, u, some (.system .isDirectory (Path.plain path))⟩

def run (s : Settings) (t : Tree) (marks : List Text := Draft.marks) : Report :=
  match prepare s t, s.out with
  | .error e, _ => .failed e t
  | .ok config, none => runToOutput s config t
  | .ok config, some path =>
      match t.draft path marks with
      | .error (fault, l) => .failed (.system fault (Path.absolute l)) t
      | .ok d => runToDraft s config path d

def newFileMode (umask : Nat) : Nat :=
  0o666 &&& (0o777 ^^^ (umask &&& 0o777))

end HeaderProbe
