import DeployCheck.CommandLine.Basic
import Std.Time.DateTime.Timestamp

/-!
The program at a command line. Files that arguments name are read before the work and files that it
leaves are written after it; it has no connection to explorers, repositories or chains.
-/
namespace DeployCheck.Main

/-- A path that an argument may name. -/
def pathOf (arg : String) : String := (Text.textAfter? "@" arg).getD arg

def contentsAt (path : String) : IO Blob := return ⟨(← IO.FS.readBinFile path).toList⟩

/-- Adds the file at a path, or the files of the directory there. -/
def load (fs : Files) (path : String) : IO Files := do
  try
    return fs.seed path (← contentsAt path)
  catch _ =>
    try
      let mut found := fs.seed (path ++ "/") ""
      for entry in ← (← IO.FS.realPath path).readDir do
        let inside := Path.join path entry.fileName
        if Path.extension? inside == some "json" then
          found := found.seed inside (← contentsAt inside)
      return found
    catch _ => return fs

/-- The variables that configurations name. -/
def configured (fs : Files) : List String :=
  fs.entries.flatMap fun
    | (_, .file contents _) =>
      match contents.text?.map Config.parse with
      | some (.ok c) => c.explorerHostVariable.toList ++ c.explorerTokenVariable.toList
      | _ => []
    | _ => []

def fixedVariables : List String := ["LOCAL_RPC_URL", "REMOTE_RPC_URL", "GITHUB_API_TOKEN"]

def environment (names : List String) : IO (List (String × String)) := do
  let mut found := []
  for name in names do
    match ← IO.getEnv name with
    | some value => found := found ++ [(name, value)]
    | none => pure ()
  return found

/-- A world without connections. -/
def world (settings : List (String × String)) (startTime : Nat) (isTerminal : Bool) : World where
  reply := fun _ _ => none
  environment := fun name => Json.lookup name settings
  compiler := fun _ _ => ⟨1, "", ""⟩
  node := .hangs
  isBusy := fun _ _ => false
  directoryLimit := 0
  startTime := startTime
  isTerminal := isTerminal

/-- Writes the files that were not there before. -/
def store (before after : Files) : IO Unit := do
  for (path, entry) in after.entries do
    if Json.lookup path before.entries != some entry then
      match entry with
      | .directory => IO.FS.createDirAll path
      | .file contents _ => IO.FS.writeBinFile path ⟨contents.bytes.toArray⟩

end DeployCheck.Main

open DeployCheck in
def main (args : List String) : IO UInt32 := do
  let mut before : Files := {}
  for path in "config.json" :: args.map Main.pathOf do
    before ← Main.load before path
  let settings ← Main.environment (Main.fixedVariables ++ Main.configured before)
  let seconds := (← Std.Time.Timestamp.now).toSecondsSinceUnixEpoch.val.toNat
  let isTerminal ← (← IO.getStdout).isTty
  let action := CommandLine.program args
  let (result, after) := action.run (Main.world settings seconds isTerminal) { files := before }
  for line in after.printed do
    IO.println line
  for event in after.events do
    IO.println ("ERROR " ++ event.line)
  Main.store before after.files
  match result with
  | .ok status =>
    if status = .usage then IO.eprintln CommandLine.Help.hint
    return status.code.toUInt32
  | .error e => nomatch e
