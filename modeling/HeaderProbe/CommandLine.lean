import HeaderProbe.Run

namespace HeaderProbe

inductive Opt where
  | help
  | root
  | config
  | out
  | unitTesting
  | verbose
  deriving DecidableEq, Repr

namespace Opt

def all : List Opt :=
  [.help, .root, .config, .out, .unitTesting, .verbose]

def spellings : Opt → List Text
  | help => ["-h".toList, "--help".toList]
  | root => ["--ksrc".toList]
  | config => ["--conffile".toList]
  | out => ["--out".toList]
  | unitTesting => ["--just_unit_testing".toList]
  | verbose => ["-v".toList, "--verbose".toList]

def takesValue : Opt → Bool
  | root => true
  | config => true
  | out => true
  | _ => false

def table : List (Text × Opt) :=
  all.flatMap fun o => o.spellings.map (·, o)

def name (o : Opt) : Text :=
  ['/'].intercalate o.spellings

def purpose : Opt → String
  | help => "Show this help."
  | root => "The source tree to look for headers in. Default: env KSRC, else the current directory."
  | config => "The configuration, a .config or an autoconf.h. Default: env CONFFILE."
  | out => "The file to write the defines to. Default: env OUT, else standard output."
  | unitTesting => "Run only the groups that unit tests cover."
  | verbose => "Show more of the log."

end Opt

def usage : String :=
  "usage: [-h] [--ksrc KSRC] [--conffile CONFFILE] [--out OUT] [--just_unit_testing] [-v]\n"

def help : String :=
  usage ++ String.join (Opt.all.map fun o =>
    "  " ++ String.ofList o.name ++ "  " ++ o.purpose ++ "\n")

inductive UsageError where
  | ambiguous (argument : Text) (spellings : List Text)
  | noValue (o : Opt)
  | needlessValue (o : Opt) (value : Text)
  | unrecognized (arguments : List Text)
  deriving DecidableEq, Repr

def UsageError.message : UsageError → Text
  | ambiguous a spellings =>
      "ambiguous option: ".toList ++ a ++ " could match ".toList ++
        ", ".toList.intercalate spellings
  | noValue o => "argument ".toList ++ o.name ++ ": expected one argument".toList
  | needlessValue o value =>
      "argument ".toList ++ o.name ++ ": ignored explicit argument ".toList ++ Text.quoted value
  | unrecognized as => "unrecognized arguments: ".toList ++ [' '].intercalate as

inductive Argument where
  | word
  | option (o : Opt) (spelling : Text) (attached : Option Text)
  | unknownOption
  deriving DecidableEq, Repr

def splitEquals (a : Text) : Text × Option Text :=
  match a.dropWhile (· ≠ '=') with
  | [] => (a, none)
  | _ :: r => (a.takeWhile (· ≠ '='), some r)

def candidates (a : Text) : List (Opt × Text × Option Text) :=
  if ['-', '-'].isPrefixOf a then
    let (start, attached) := splitEquals a
    (Opt.table.filter fun (s, _) => start.isPrefixOf s).map fun (s, o) => (o, s, attached)
  else
    Opt.table.filterMap fun (s, o) =>
      if s = a.take 2 then some (o, s, some (a.drop 2))
      else if a.isPrefixOf s then some (o, s, none)
      else none

def isNegativeNumber (a : Text) : Bool :=
  match a with
  | '-' :: r =>
      let r := if r.getLast? = some '\n' then r.dropLast else r
      match r.dropWhile Text.isDecimal with
      | [] => !r.isEmpty
      | '.' :: fraction => !fraction.isEmpty && fraction.all Text.isDecimal
      | _ => false
  | _ => false

def classify (a : Text) : Except UsageError Argument :=
  if a.head? ≠ some '-' then .ok .word
  else match Opt.table.lookup a with
    | some o => .ok (.option o a none)
    | none =>
        if a.length = 1 then .ok .word
        else
          let (start, attached) := splitEquals a
          match attached.bind fun _ => Opt.table.lookup start with
          | some o => .ok (.option o start attached)
          | none =>
              match candidates a with
              | [] => .ok (if isNegativeNumber a || a.contains ' ' then .word else .unknownOption)
              | [(o, s, attached)] => .ok (.option o s attached)
              | many => .error (.ambiguous a (many.map (·.2.1)))

def classifyAll : List Text → Except UsageError (List (Text × Argument))
  | [] => .ok []
  | a :: rest =>
      if a = ['-', '-'] then .ok ((a, .unknownOption) :: rest.map (·, .word))
      else do
        let form ← classify a
        return (a, form) :: (← classifyAll rest)

structure Invocation where
  settings : Settings
  verbose : Bool := false
  deriving DecidableEq, Repr

inductive Request where
  | help
  | run (i : Invocation)
  deriving DecidableEq, Repr

def Invocation.setValue (i : Invocation) (o : Opt) (value : Text) : Invocation :=
  match o with
  | .root => { i with settings := { i.settings with root := some value } }
  | .config => { i with settings := { i.settings with config := some value } }
  | .out => { i with settings := { i.settings with out := some value } }
  | _ => i

def Invocation.turnOn (i : Invocation) (o : Opt) : Invocation :=
  match o with
  | .unitTesting => { i with settings := { i.settings with unitTesting := true } }
  | .verbose => { i with verbose := true }
  | _ => i

def cluster (o : Opt) : (rest : Text) → Except UsageError (List Opt)
  | [] => .ok [o]
  | c :: r =>
      match Opt.table.lookup ['-', c] with
      | none => .error (.needlessValue o (c :: r))
      | some next => (cluster next r).map (o :: ·)

def switches (o : Opt) (spelling : Text) : Option Text → Except UsageError (List Opt)
  | none => .ok [o]
  | some value =>
      if ['-', '-'].isPrefixOf spelling || value.isEmpty then .error (.needlessValue o value)
      else cluster o value

def follow : Invocation → (extra : List Text) → List (Text × Argument) → Except UsageError Request
  | i, [], [] => .ok (.run i)
  | _, extra, [] => .error (.unrecognized extra)
  | i, extra, (a, .word) :: rest => follow i (extra ++ [a]) rest
  | i, extra, (a, .unknownOption) :: rest => follow i (extra ++ [a]) rest
  | i, extra, (_, .option o spelling attached) :: rest =>
      if o.takesValue then
        match attached, rest with
        | some value, rest => follow (i.setValue o value) extra rest
        | none, (value, .word) :: rest => follow (i.setValue o value) extra rest
        | none, _ => .error (.noValue o)
      else do
        let os ← switches o spelling attached
        if os.contains .help then return .help
        follow (os.foldl Invocation.turnOn i) extra rest

def environmentNames : List String :=
  ["KSRC", "CONFFILE", "OUT", "JUST_UNIT_TESTING"]

def environmentValue (environment : List (Text × Text)) (name : String) : Option Text :=
  (environment.lookup name.toList).filter fun v => !v.isEmpty

def defaults (environment : List (Text × Text)) : Invocation where
  settings := {
    root := environmentValue environment "KSRC"
    config := environmentValue environment "CONFFILE"
    out := environmentValue environment "OUT"
    unitTesting := (environmentValue environment "JUST_UNIT_TESTING").isSome }

def Request.ofArguments (environment : List (Text × Text)) (arguments : List Text) :
    Except UsageError Request := do
  follow (defaults environment) [] (← classifyAll arguments)

structure Shown where
  status : Nat
  output : Text
  errors : Text
  tree : Tree

def Invocation.run (i : Invocation) (t : Tree) : Shown :=
  let r := HeaderProbe.run i.settings t
  let shown := r.log.filter fun record => i.verbose && record.level != .debug
  let records := shown ++ (r.error.map fun e => ⟨.error, e.message⟩).toList
  { status := match r.error with
      | none => 0
      | some e => e.errorClass.exitCode?.getD 1
    output := r.output
    errors := records.flatMap (fun record => record.print ++ ['\n']) ++ r.echo
    tree := r.tree }

end HeaderProbe
