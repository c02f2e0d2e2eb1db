import DeployCheck.Bytecode.Immutables
import DeployCheck.Failure
import DeployCheck.Json.Basic

/-!
What the compiler answers: its errors, and the contract that a verification is about.
-/
namespace DeployCheck.Compiler

/-- The text of an entry that reports an error. -/
def errorText? (entry : Json) : Option String :=
  if entry.string? "severity" = some "error" then
    ((entry.get? "formattedMessage").or (entry.get? "message")).bind Json.asString?
  else none

/-- The texts of the errors that an output reports. -/
def errorTexts (output : Json) : List String :=
  (((output.get? "errors").bind Json.asArray?).getD []).filterMap errorText?

/-- The contracts of a name in all files of an output. -/
def contractsNamed (name : String) (output : Json) : List Json :=
  (((output.get? "contracts").bind Json.asObject?).getD []).filterMap fun file => file.2.get? name

/-- The only contract of a name. -/
def targetContract (output : Json) (name : String) : Except CompilerError Json :=
  match contractsNamed name output with
  | [contract] => .ok contract
  | [] => .error (.noContract name)
  | _ => .error (.manyContracts name)

/-- What a comparison needs of a compiled contract. -/
structure Artifacts where
  abi : Json
  /-- The code that deploys the contract, in hexadecimal. -/
  creationCode : String
  /-- The code of the deployed contract, its immutables zero. -/
  runtimeCode : String
  immutables : Bytecode.Immutables

/-- The text at the end of a path of keys. -/
def textAt (contract : Json) (path : List String) : Except CompilerError String :=
  match (contract.at? path).bind Json.asString? with
  | some text => .ok text
  | none => .error (.missingOutput path)

def Artifacts.ofContract (contract : Json) : Except CompilerError Artifacts := do
  let creationCode ← textAt contract ["evm", "bytecode", "object"]
  let runtimeCode ← textAt contract ["evm", "deployedBytecode", "object"]
  let immutables := contract.at? ["evm", "deployedBytecode", "immutableReferences"]
  return ⟨(contract.get? "abi").getD (.arr []), creationCode, runtimeCode,
    (immutables.map Bytecode.Immutables.ofReport).getD []⟩

end DeployCheck.Compiler
