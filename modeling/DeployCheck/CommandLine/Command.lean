import DeployCheck.Bytecode.Comparison
import DeployCheck.CommandLine.Grammar
import DeployCheck.Text.Digits

/-!
The commands of the program and the arguments that they are given by.
-/
namespace DeployCheck.CommandLine

/-- The arguments of a verification run. -/
structure RunArguments where
  /-- A configuration, or a directory of them. -/
  path : String
  yes : Bool
  recursive : Bool
  skipBytecode : Bool
  nodeDirectory : String
  localUrl : Option String
  remoteUrl : Option String
  directory : Option String
  color : Bool
deriving DecidableEq, Repr

/-- The arguments of a comparison. -/
structure CompareArguments where
  actual : String
  expected : String
  /-- The immutables as the compiler reports them. -/
  immutables : Option String
  context : Nat
  noColor : Bool
deriving DecidableEq, Repr

inductive Command where
  | run (args : RunArguments)
  | decode (input : String)
  | trim (input : String) (raw : Bool)
  | compare (args : CompareArguments)
  | encode (abi args : String)
deriving DecidableEq, Repr

def isPath (s : String) : Bool := s != ""

def runGrammar : Grammar where
  name := "run"
  switches := [⟨"yes", some 'y'⟩, ⟨"support-brownie", none⟩, ⟨"skip-binary-comparison", none⟩,
    ⟨"color", none⟩]
  settings := [⟨"hardhat-path", isPath⟩, { name := "local-rpc-url" }, { name := "remote-rpc-url" },
    ⟨"digest-dir", isPath⟩]
  places := [⟨"path", false, isPath⟩]

def RunArguments.ofValues (vs : Values) : RunArguments where
  path := (vs.value? "path").getD "config.json"
  yes := vs.has "yes"
  recursive := vs.has "support-brownie"
  skipBytecode := vs.has "skip-binary-comparison"
  nodeDirectory := (vs.value? "hardhat-path").getD "."
  localUrl := vs.value? "local-rpc-url"
  remoteUrl := vs.value? "remote-rpc-url"
  directory := vs.value? "digest-dir"
  color := vs.has "color"

def decodeGrammar : Grammar := ⟨"decode", [], [], [{ name := "input" }]⟩

def trimGrammar : Grammar :=
  ⟨"trim", [{ name := "raw" }], [], [{ name := "input" }]⟩

def compareGrammar : Grammar where
  name := "compare"
  switches := [{ name := "no-color" }]
  settings := [{ name := "immutables" },
    ⟨"context", fun s => (Text.wordOfDecimal s).isSome⟩]
  places := [{ name := "actual" }, { name := "expected" }]

def CompareArguments.ofValues (vs : Values) : CompareArguments where
  actual := (vs.value? "actual").getD ""
  expected := (vs.value? "expected").getD ""
  immutables := vs.value? "immutables"
  context := ((vs.value? "context").bind Text.wordOfDecimal).getD Bytecode.defaultContext
  noColor := vs.has "no-color"

def encodeGrammar : Grammar := ⟨"encode", [], [], [{ name := "abi" }, { name := "args" }]⟩

/-- Reads a command by its name and its arguments. -/
def Command.named (name : String) (args : List String) : Except Stop Command := do
  match name with
  | "run" => return .run (.ofValues (← runGrammar.parse args))
  | "decode" => return .decode (((← decodeGrammar.parse args).value? "input").getD "")
  | "trim" =>
    let vs ← trimGrammar.parse args
    return .trim ((vs.value? "input").getD "") (vs.has "raw")
  | "compare" => return .compare (.ofValues (← compareGrammar.parse args))
  | "encode" =>
    let vs ← encodeGrammar.parse args
    return .encode ((vs.value? "abi").getD "") ((vs.value? "args").getD "")
  | _ => throw .usage

/-- The words in the place of a command that help can be asked for on. -/
def Command.names : List String := ["run", "decode", "trim", "compare", "encode", "help"]

/-- What help is asked for behind the word for it. -/
def Command.topic : List String → Stop
  | [] => .help .program
  | [name] => if Command.names.contains name then .help (.command name) else .usage
  | _ => .usage

/-- Reads the program's arguments: an option of its own, or a command. -/
def Command.parse : List String → Except Stop Command
  | [] => .error .usage
  | name :: args =>
    match name.toList with
    | '-' :: 'V' :: _ => .error .version
    | '-' :: 'h' :: _ => .error (.help .brief)
    | _ =>
      if name = "--version" then .error .version
      else if name = "--help" then .error (.help .program)
      else if name = "help" then .error (Command.topic args)
      else Command.named name args

end DeployCheck.CommandLine
