import HeaderProbe.CommandLine
import HeaderProbe.Run.Reads

namespace HeaderProbe

def entryAt? (path : Text) : IO (Option Entry) := do
  match ← (IO.FS.realPath (String.ofList path)).toBaseIO with
  | .error _ => return none
  | .ok found =>
      match (← found.metadata).type with
      | .dir => return some .directory
      | .file => return some (.file (← IO.FS.readBinFile found).toList)
      | _ => return none

def Tree.observe (t : Tree) (path : Text) : IO Tree := do
  match ← entryAt? path with
  | some e => return t.set (t.target path) e
  | none => return t

def Tree.observeNames (t : Tree) (path : Text) : IO Tree := do
  match ← (IO.FS.realPath (String.ofList path)).toBaseIO with
  | .error _ => return t
  | .ok found =>
      unless ← found.isDir do return t
      let names := (← found.readDir).toList.map fun e => t.target path ++ [e.fileName.toList]
      return (names.filter fun l => (t.entry? l).isNone).foldl (fun t l => t.set l (.file [])) t

def Settings.readTree (s : Settings) : IO Tree := do
  let current := Path.steps (← IO.currentDir).toString.toList
  let t : Tree := ({ current := current } : Tree).makeDirectories [] current
  let t ← (s.rootPath :: (s.out.toList ++ s.reads).flatMap Path.stages).eraseDups.foldlM Tree.observe t
  if t.hasContent s.rootPath marker then return t else t.observeNames s.rootPath

def replaceFile (path : Text) (content : List UInt8) : IO Unit := do
  let draft := String.ofList (path ++ ".new".toList)
  IO.FS.writeBinFile draft ⟨content.toArray⟩
  IO.FS.rename draft (String.ofList path)

def Shown.writeBack (shown : Shown) (out : Option Text) : IO Unit := do
  let some path := out | return
  if shown.status ≠ 0 then return
  let some (.file content) := shown.tree.entry? (shown.tree.target path) | return
  replaceFile path content

def Invocation.perform (i : Invocation) : IO UInt32 := do
  let shown := i.run (← i.settings.readTree)
  shown.writeBack i.settings.out
  (← IO.getStdout).putStr (String.ofList shown.output)
  (← IO.getStderr).putStr (String.ofList shown.errors)
  return UInt32.ofNat shown.status

def readEnvironment : IO (List (Text × Text)) :=
  environmentNames.filterMapM fun name => do
    return (← IO.getEnv name).map fun value => (name.toList, value.toList)

end HeaderProbe

open HeaderProbe in
def main (arguments : List String) : IO UInt32 := do
  match Request.ofArguments (← readEnvironment) (arguments.map String.toList) with
  | .ok (.run i) => i.perform
  | .ok .help =>
      (← IO.getStdout).putStr help
      return 0
  | .error e =>
      (← IO.getStderr).putStr (usage ++ "error: " ++ String.ofList e.message ++ "\n")
      return 2
