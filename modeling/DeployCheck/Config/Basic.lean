import DeployCheck.Failure
import DeployCheck.Json.Parser
import DeployCheck.Json.Record

/-!
The configuration of a verification: contracts of one chain, the repositories they are built from,
and how to reach the explorer. A configuration that reads is also valid.
-/
namespace DeployCheck

/-- A repository at a commit. -/
structure RepositoryRef where
  url : String
  commit : String
  /-- The directory that source paths are relative to. -/
  root : String
deriving DecidableEq, Repr

/-- How the bytecode of the contracts is checked. -/
structure BytecodeSettings where
  /-- The configuration of the local node; without one no node is used. -/
  nodeConfig : Option String
  /-- Raw constructor data by contract address. -/
  calldata : List (String × String)
  /-- Constructor arguments by contract address. -/
  arguments : List (String × List Json)
deriving Repr

structure Config where
  /-- Names by address, in order. -/
  contracts : List (String × String)
  repository : RepositoryRef
  /-- Repositories of imported packages by the beginning of their paths. -/
  dependencies : List (String × RepositoryRef)
  explorerHost : Option String
  explorerHostVariable : Option String
  explorerTokenVariable : Option String
  chainId : Option Nat
  bytecode : Option BytecodeSettings
  /-- Whether the first bytecode failure ends the run. -/
  failFast : Bool
  auditUrl : Option String
  metadata : Option Json
deriving Repr

def RepositoryRef.fieldNames : List String := ["url", "commit", "relative_root"]

open Json.Fields in
def RepositoryRef.ofJson (j : Json) : Option RepositoryRef := do
  let fields ← j.fields? RepositoryRef.fieldNames 2
  return {
    url := ← required Json.asString? fields "url"
    commit := ← required Json.asString? fields "commit"
    root := ← withDefault "" Json.asString? fields "relative_root" }

def mergedValue (j : Json) : Option Json := some j.merged

def BytecodeSettings.fieldNames : List String :=
  ["hardhat_config_name", "constructor_calldata", "constructor_args"]

open Json.Fields in
def BytecodeSettings.ofJson (j : Json) : Option BytecodeSettings := do
  let fields ← j.fields? BytecodeSettings.fieldNames 0
  return {
    nodeConfig := ← optional Json.asString? fields "hardhat_config_name"
    calldata := ← withDefault [] (Json.mapOf Json.asString?) fields "constructor_calldata"
    arguments := ←
      withDefault [] (Json.mapOf (Json.listOf mergedValue)) fields "constructor_args" }

namespace Config

def fieldNames : List String :=
  ["contracts", "github_repo", "dependencies", "explorer_hostname", "explorer_hostname_env_var",
    "explorer_token_env_var", "explorer_chain_id", "bytecode_comparison",
    "fail_on_bytecode_comparison_error", "audit_url", "metadata"]

/-- The shape of a field of a configuration. -/
def fieldShape : String → Json.Shape
  | "github_repo" => .plain RepositoryRef.fieldNames
  | "dependencies" => .map (.plain RepositoryRef.fieldNames)
  | "bytecode_comparison" => .plain BytecodeSettings.fieldNames
  | _ => .whole

def shape : Json.Shape := .record (fieldNames.map fun name => (name, fieldShape name))

open Json.Fields in
def ofJson (j : Json) : Option Config := do
  let fields ← j.fields? fieldNames 2
  return {
    contracts := ← required (Json.mapOf Json.asString?) fields "contracts"
    repository := ← required RepositoryRef.ofJson fields "github_repo"
    dependencies := ← withDefault [] (Json.mapOf RepositoryRef.ofJson) fields "dependencies"
    explorerHost := ← optional Json.asString? fields "explorer_hostname"
    explorerHostVariable := ← optional Json.asString? fields "explorer_hostname_env_var"
    explorerTokenVariable := ← optional Json.asString? fields "explorer_token_env_var"
    chainId := ← optional Json.asWord? fields "explorer_chain_id"
    bytecode := ← optional BytecodeSettings.ofJson fields "bytecode_comparison"
    failFast := ← withDefault true Json.asBool? fields "fail_on_bytecode_comparison_error"
    auditUrl := ← optional Json.asString? fields "audit_url"
    metadata := ← optional mergedValue fields "metadata" }

/-- `0x` and 40 hexadecimal digits. -/
def isAddress (s : String) : Bool :=
  match Text.after? ['0', 'x'] s.toList with
  | some digits => digits.length == 40 && digits.all Text.Hex.isDigit
  | none => false

/-- The addresses that constructor data is given for, raw data first. -/
def BytecodeSettings.addresses (b : BytecodeSettings) : List String :=
  b.calldata.map Prod.fst ++ b.arguments.map Prod.fst

/-- The first rule that the configuration breaks. -/
def problem? (c : Config) : Option ConfigurationError :=
  let listed := c.contracts.map Prod.fst
  if c.contracts.isEmpty then some .noContracts
  else match listed.find? fun a => !isAddress a with
    | some bad => some (.invalidAddress bad)
    | none =>
      if c.explorerHost.isNone && c.explorerHostVariable.isNone then some .noExplorer
      else if c.repository.url == "" || c.repository.commit == "" then some .incompleteRepository
      else
        let given := (c.bytecode.map BytecodeSettings.addresses).getD []
        (given.find? fun a => !listed.contains a).map .unlistedContract

/-- Reads and checks a configuration. -/
def parse (text : String) : Except Failure Config :=
  match (Json.parseAs? shape text).bind ofJson with
  | none => .error .serialization
  | some c =>
    match c.problem? with
    | some e => .error (.configuration e)
    | none => .ok c

end Config

/-- Stars in place of all characters but the first and last `visible`. -/
def maskText (visible : Nat) (s : String) : String :=
  let cs := s.toList
  let stars (n : Nat) : List Char := List.replicate n '*'
  if cs.length ≤ 2 * visible then String.ofList (stars cs.length)
  else String.ofList
    (cs.take visible ++ stars (cs.length - 2 * visible) ++ cs.drop (cs.length - visible))

end DeployCheck
