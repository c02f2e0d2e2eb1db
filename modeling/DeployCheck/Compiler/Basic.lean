import DeployCheck.Compiler.Build
import DeployCheck.Compiler.Output
import DeployCheck.Session

/-!
Compilers in a directory of files: looking up the build of a version, fetching its program once,
and compiling with it.
-/
namespace DeployCheck.Compiler

def platform : String := "linux-amd64"

/-- Where the builds of the platform are published. -/
def downloadUrl (name : String) : String :=
  "https://binaries.soliditylang.org/" ++ platform ++ "/" ++ name

/-- The build of a version that an explorer reports. -/
def buildOf (version : String) : Session Build := do
  let reply ← Session.sendChecked (.get (downloadUrl "list.json"))
  let builds ← Action.require .http
    ((reply.body.text?.bind (Json.parseAs? Build.listShape)).bind Build.listOfJson)
  Action.require (.compiler (.unknownVersion version platform)) (Build.find? builds version)

/-- Whether a build's program is at a path already. -/
def isCached (path : String) (build : Build) : Session Bool := do
  if (← Action.files).exists? path then
    return Build.hasDigest (← Session.contentsOf path).bytes build.keccak256
  return false

/-- The path of a build's program in a directory. It is fetched unless it is there with the digest
of the build, and stored only if it has that digest. -/
def ensure (directory : String) (build : Build) : Session String := do
  let path := Path.join directory build.path
  if ← isCached path build then return path
  let reply ← Session.sendChecked (.get (downloadUrl build.path))
  ofExcept ((Build.checkDigest reply.body.bytes build.keccak256).mapError .compiler)
  Session.makeDirectories directory
  Session.writeFile path reply.body true
  return path

/-- How long the compiler may take. -/
def timeLimit : Nat := 30

/-- How the compiler ends on an input, or why it does not. -/
def ending (w : World) (program : Blob) (input : CompilerInput) : Except Failure Outcome :=
  match w.obstacle program input with
  | none => .ok (w.compiler program input)
  | some .unfit | some .deaf => .error .io
  | some .late => .error (.timeout "solc compilation" timeLimit)

/-- Runs the compiler at a path, which has to be executable. A path without a slash is looked for
among the programs of the system, where there is no compiler. -/
def runAt (path : String) (input : CompilerInput) : Session Outcome := do
  let fs ← Action.files
  if !path.toList.contains '/' || !fs.isExecutable path then throw .io
  let program ← Session.contentsOf path
  let w ← read
  if w.obstacle program input != some .unfit then
    modify fun st => { st with compilations := st.compilations ++ [⟨path, program, input⟩] }
  ofExcept (ending w program input)

/-- Compiles an input. The output counts if the compiler ends well and reports no error text. -/
def compile (path : String) (input : CompilerInput) : Session Json := do
  let outcome ← runAt path input
  if outcome.status ≠ 0 then
    throw (.compiler (.exited ⟨outcome.status, outcome.complaint.text⟩))
  let output ← Action.require .serialization outcome.output.json?
  match errorTexts output with
  | [] => return output
  | texts => throw (.compiler (.reported texts))

end DeployCheck.Compiler
