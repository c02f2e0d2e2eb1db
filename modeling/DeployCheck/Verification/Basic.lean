import DeployCheck.Config.Load
import DeployCheck.Explorer.Basic
import DeployCheck.Node
import DeployCheck.Repository.Client
import DeployCheck.Verification.Bytecode
import DeployCheck.Verification.Summary

/-!
Verification of the contracts of a configuration, one after the other: the sources are fetched and
reviewed, and the bytecode is checked unless that step is off.
-/
namespace DeployCheck

/-- How a run differs from the default. -/
structure Options where
  /-- Whether missing files are searched for in the whole repository. -/
  recursive : Bool := false
  skipBytecode : Bool := false
  /-- Whether the user is asked before each contract's review. -/
  interactive : Bool := false
  /-- Where the local node is run. -/
  nodeDirectory : String := "."
  localUrl : String := "http://127.0.0.1:7545"
  /-- The remote chain; without it a variable of the environment names one. -/
  remoteUrl : Option String := none
  /-- The directory for pages and the log. -/
  directory : String := "digest"
  color : Bool := false
deriving DecidableEq, Repr

/-- A configuration with all that is needed to verify it. -/
structure Verifier where
  config : Config
  options : Options
  explorer : Explorer
  client : Repository.Client

namespace Verifier

open Verification

/-- A verifier with the explorer and the tokens that the environment gives. -/
def ofConfig (config : Config) (options : Options) : Session Verifier := do
  let host ← config.resolveHost
  let token ← config.resolveToken
  let repositoryToken ← Session.setting? "GITHUB_API_TOKEN"
  let client ← ofExcept (Repository.Client.withToken repositoryToken)
  return ⟨config, options, ⟨host, token, config.chainId⟩, client⟩

/-- The settings of the bytecode step; none if it is off. -/
def bytecodeSettings (v : Verifier) : Option BytecodeSettings :=
  if v.options.skipBytecode then none else v.config.bytecode

/-- The address of the remote chain. -/
def remoteUrl (v : Verifier) : Session String := do
  match v.options.remoteUrl with
  | some url => return url
  | none =>
    Action.require (.configuration .noRemoteUrl) (← Session.setting? "REMOTE_RPC_URL")

/-- Fails unless the remote chain is the one configured. -/
def checkChain (v : Verifier) (remote : Connection) : Session Unit := do
  match v.config.chainId with
  | none => return ()
  | some expected =>
    let actual ← remote.chainId
    if actual ≠ expected then throw (.configuration (.otherChain actual expected))

def defaultNodeConfig : String := "hardhat_config.js"

/-- The local node that a configuration names. -/
def localNode (v : Verifier) (name remoteUrl : String) : LocalNode where
  directory := v.options.nodeDirectory
  config := Path.join v.options.nodeDirectory (if name = "" then defaultNodeConfig else name)
  localUrl := v.options.localUrl
  remoteUrl := remoteUrl

/-- Connects to the remote chain and starts a local node, if there is to be one. -/
def openNodes (v : Verifier) (settings : BytecodeSettings) : Session Nodes := do
  let url ← v.remoteUrl
  let remote ← Rpc.connect url
  v.checkChain remote
  match settings.nodeConfig with
  | none => return ⟨remote, none⟩
  | some name =>
    (v.localNode name url).start
    return ⟨remote, some (← Rpc.connect v.options.localUrl)⟩

/-- What the bytecode step needs; nothing if it is off. -/
def prepare (v : Verifier) : Session (Option Nodes) := do
  match v.bytecodeSettings with
  | some settings => return some (← v.openNodes settings)
  | none => return none

/-- The event of a bytecode check that fails without ending the run. -/
def failureEvent (address : String) (e : Failure) : Event :=
  ⟨"bytecode comparison failed: " ++ e.message, [("address", Text.Quoted.text address)]⟩

/-- The bytecode outcome of a contract. A failure ends the run if the configuration says so. -/
def bytecodeOutcome (v : Verifier) (nodes : Option Nodes) (address : String)
    (source : VerifiedSource) (fetched : List (String × String)) : Session BytecodeOutcome := do
  match nodes with
  | none => return .skipped
  | some nodes =>
    try
      return .verified
        (← checkBytecode nodes v.options.color v.config.bytecode address source fetched)
    catch e =>
      if v.config.failFast then throw e
      Action.record (failureEvent address e)
      return .failed e.message

/-- Reviews the files of a contract and prints their table if colour is wanted. -/
def review (v : Verifier) (address : String) (source : VerifiedSource) : Session Review := do
  let fetch := v.client.fetch v.options.recursive
  let review ← Review.run fetch v.config v.options.directory address source.input.sources
  if v.options.color then Action.print (Review.table true review.files)
  return review

/-- Verifies one contract. -/
def verify (v : Verifier) (nodes : Option Nodes) (address name : String) :
    Session ContractOutcome := do
  let source ← v.explorer.fetch address
  ofExcept (source.ensureName name)
  if v.options.interactive then Action.print "Press Enter to proceed..."
  let review ← v.review address source
  let bytecode ← v.bytecodeOutcome nodes address source review.fetched
  return ⟨address, name, review.files, bytecode⟩

/-- Verifies contracts one after the other. -/
def verifyAll (v : Verifier) (nodes : Option Nodes) :
    List (String × String) → Session (List ContractOutcome)
  | [] => pure []
  | (address, name) :: rest => do
    let outcome ← v.verify nodes address name
    return outcome :: (← v.verifyAll nodes rest)

/-- Verifies all contracts of the configuration. -/
def run (v : Verifier) : Session Summary := do
  let nodes ← v.prepare
  return ⟨← v.verifyAll nodes v.config.contracts⟩

end Verifier

end DeployCheck
