import DeployCheck.CommandLine.Command
import DeployCheck.CommandLine.Help
import DeployCheck.Json.Printer
import DeployCheck.Verification.Basic

/-!
Carrying out commands: what each prints, which failures end it, and the program's exit status.
-/
namespace DeployCheck.CommandLine

/-- Why a command fails. -/
inductive CommandError where
  | verification (cause : Failure)
  | comparison (cause : Bytecode.CompareError)
  | decoding (cause : Text.Hex.Error)
  | encoding (cause : Abi.EncodeError)
  /-- A file that cannot be read. -/
  | file
  /-- A text that is no JSON of the form expected. -/
  | serialization
  /-- So many contracts have failing bytecode. -/
  | failedContracts (count : Nat)

def CommandError.message : CommandError → String
  | .verification cause => cause.message
  | .comparison cause => cause.message
  | .decoding cause => Bytecode.decodeMessage cause
  | .encoding cause => cause.message
  | .file => Failure.io.message
  | .serialization => Failure.serialization.message
  | .failedContracts count => s!"{count} contract(s) failed bytecode comparison"

abbrev CommandAction := Action CommandError

/-- The text of an argument, or of the file that it names behind an `@`. -/
def readText (arg : String) : CommandAction String := do
  match Text.textAfter? "@" arg with
  | none => return arg
  | some path => Action.require .file ((← Action.files).read? path)

/-- The code that an argument gives in hexadecimal. -/
def readCode (arg : String) : CommandAction (List UInt8) := do
  ofExcept ((Text.Hex.read (← readText arg)).mapError .decoding)

def readJson (arg : String) : CommandAction Json := do
  Action.require .serialization (Json.parse? (← readText arg))

def marked (bytes : List UInt8) : String := "0x" ++ Text.Hex.encode bytes

def printAll (lines : List String) : CommandAction Unit := lines.forM Action.print

/-- Prints the listing of a code below a line about it. -/
def decode (input : String) : CommandAction Unit := do
  let bytes ← readCode input
  let code := Bytecode.disassemble bytes
  let digest := marked (Hash.Keccak.digest bytes)
  Action.print s!"; {bytes.length} bytes, {code.length} instructions, keccak256 {digest}"
  printAll (code.map Bytecode.Instruction.line)

/-- A trimmed code as JSON. -/
def trimReport (input : List UInt8) (t : Bytecode.Trimmed) : Json :=
  .obj [("input_length", .int input.length), ("code_length", .int t.code.length),
    ("code", .str (marked t.code)), ("string_literal", .str t.literalText),
    ("metadata", .str (marked t.metadata))]

def trim (input : String) (raw : Bool) : CommandAction Unit := do
  let bytes ← readCode input
  let t := Bytecode.trim bytes
  Action.print (if raw then marked t.code else (trimReport bytes t).pretty)

def immutables (arg : Option String) : CommandAction Bytecode.Immutables := do
  match arg with
  | none => return []
  | some arg => return .ofReport (← readJson arg)

def verdictText : Bytecode.Verdict → String
  | .fullMatch => "bytecodes fully match"
  | _ => "bytecodes differ only on immutable reference positions"

/-- Prints the differences of two codes, in colour on a terminal, and what they amount to. -/
def compare (args : CompareArguments) : CommandAction Unit := do
  let actual ← readText args.actual
  let expected ← readText args.expected
  let refs ← immutables args.immutables
  let comparison ← (Verification.evaluate args.context refs (Text.stripped actual)
    (Text.stripped expected)).mapFailure .comparison
  let color := !args.noColor && (← read).isTerminal
  printAll (comparison.diffText? color).toList
  Action.print (verdictText (← ofExcept (comparison.result.mapError .comparison)))

/-- The ABI in a compiler's output, or the value itself. -/
def abiIn (j : Json) : Json := (j.get? "abi").getD j

/-- Prints constructor arguments in their binary form. -/
def encode (abi args : String) : CommandAction Unit := do
  let abi := abiIn (← readJson abi)
  let args ← Action.require .serialization (← readJson args).asArray?
  let inputs ← Action.require .serialization (Abi.constructorInputs? abi)
  let data ← ofExcept ((Abi.encodeArguments (inputs.getD []) args).mapError .encoding)
  Action.print (marked data)

/-! ## Runs -/

/-- The directory for pages and the log of a run. -/
def runDirectory (args : RunArguments) : CommandAction String := do
  return args.directory.getD ("digest/" ++ toString (← read).startTime)

def optionsOf (args : RunArguments) : CommandAction Options := do
  let environment := (← read).environment
  let default : Options := {}
  return {
    recursive := args.recursive
    skipBytecode := args.skipBytecode
    interactive := !args.yes
    nodeDirectory := args.nodeDirectory
    localUrl := (args.localUrl.or (environment "LOCAL_RPC_URL")).getD default.localUrl
    remoteUrl := args.remoteUrl.or (environment "REMOTE_RPC_URL")
    directory := ← runDirectory args
    color := args.color }

/-- Verifies the contracts of a configuration file. -/
def runFile (options : Options) (path : String) : Session Nat := do
  let verifier ← Verifier.ofConfig (← Config.load path) options
  return (← verifier.run).failures

/-- Runs configurations one after the other and counts the failing contracts. -/
def runFiles (options : Options) : List String → Session Nat
  | [] => pure 0
  | path :: rest => do
    let failures ← runFile options path
    return failures + (← runFiles options rest)

/-- Verifies all configurations of a path. -/
def run (args : RunArguments) : CommandAction Unit := do
  let options ← optionsOf args
  let work : Session Nat := do runFiles options (← Config.pathsIn args.path)
  let failures ← work.mapFailure .verification
  if failures > 0 then
    Action.record ⟨"bytecode verification failed", [("failures", toString failures)]⟩
    throw (.failedContracts failures)

/-- Opens the log of a run, which is added to if it is there. -/
def openLog (directory : String) : Session Unit := do
  let path := Path.join directory "logs.txt"
  Session.makeDirectories (Path.trimmed directory)
  if !(← Action.files).isFile path then Session.writeFile path "" false

/-! ## The program -/

def Command.execute : Command → CommandAction Unit
  | .run args => CommandLine.run args
  | .decode input => CommandLine.decode input
  | .trim input raw => CommandLine.trim input raw
  | .compare args => CommandLine.compare args
  | .encode abi args => CommandLine.encode abi args

/-- What has to succeed before a command is carried out. -/
def Command.prepare : Command → CommandAction Unit
  | .run args => do (openLog (← runDirectory args)).mapFailure .verification
  | _ => pure ()

/-- How the program ends. -/
inductive Status where
  | success
  | failure
  | usage
deriving DecidableEq, Repr

def Status.code : Status → Nat
  | .success => 0
  | .failure => 1
  | .usage => 2

/-- Carries out a command. Its failure is an error event, a log that cannot be opened is none. -/
def Command.status (c : Command) : Action Empty Status := fun w st =>
  match c.prepare.run w st with
  | (.error _, st) => (.ok .failure, st)
  | (.ok (), st) =>
    match c.execute.run w st with
    | (.ok (), st) => (.ok .success, st)
    | (.error e, st) =>
      (.ok .failure, { st with events := st.events ++ [⟨e.message, []⟩] })

def versionText : String := "veriscan 0.1.0"

/-- Carries out the program's arguments. -/
def program (args : List String) : Action Empty Status := do
  match Command.parse args with
  | .ok command => command.status
  | .error .version =>
    Action.print versionText
    return .success
  | .error (.help topic) =>
    Action.print (Help.text (((← read).environment "LOCAL_RPC_URL").getD "") topic)
    return .success
  | .error .usage => return .usage

end DeployCheck.CommandLine
