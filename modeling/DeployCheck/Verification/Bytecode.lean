import DeployCheck.Calldata
import DeployCheck.Compiler.Basic
import DeployCheck.Review.Basic
import DeployCheck.Rpc

/-!
The bytecode step of a verification: the reviewed sources are compiled, and the code that they give
is compared with the code on the chain.
-/
namespace DeployCheck.Verification

/-- The nodes that the bytecode step talks to. Without a local node nothing is deployed, and the
compiler's own runtime code counts. -/
structure Nodes where
  remote : Connection
  localNode : Option Connection
deriving DecidableEq, Repr

/-- Where compilers are kept. -/
def compilerDirectory : String := "/tmp/solc_builds"

/-- Compiles a contract from the texts of the repository, where there are any. -/
def compiled (source : VerifiedSource) (fetched : List (String × String)) :
    Session Compiler.Artifacts := do
  let build ← Compiler.buildOf source.compilerVersion
  let path ← Compiler.ensure compilerDirectory build
  let output ← Compiler.compile path (source.input.withTexts fetched)
  let contract ← ofExcept ((Compiler.targetContract output source.name).mapError .compiler)
  ofExcept ((Compiler.Artifacts.ofContract contract).mapError .compiler)

/-- What deploys a contract: its creation code and the constructor data behind it. -/
def creationData (address : String) (artifacts : Compiler.Artifacts)
    (settings : Option BytecodeSettings) : Except Failure (List UInt8) := do
  let data ← constructorData address artifacts.abi settings
  let code ← (Text.Hex.read artifacts.creationCode).mapError .decode
  return code ++ data.getD []

/-- The code that a local deployment leaves on the chain. -/
def deployedCode (c : Connection) (data : List UInt8) : Session String := do
  match ← c.accounts with
  | [] => throw (.rpc .noAccounts)
  | deployer :: _ =>
    let address ← c.deploy deployer data
    Action.require (.rpc (.noLocalCode address)) (← c.code address)

/-- The code expected on the chain. -/
def expectedCode (nodes : Nodes) (address : String) (artifacts : Compiler.Artifacts)
    (settings : Option BytecodeSettings) : Session String := do
  match nodes.localNode with
  | none => return artifacts.runtimeCode
  | some c => deployedCode c (← ofExcept (creationData address artifacts settings))

/-- The event of two literals that differ. -/
def literalEvent (c : Bytecode.Comparison) : Event :=
  ⟨"string literals differ", [("actual", c.actualLiteral), ("expected", c.expectedLiteral)]⟩

/-- Compares two codes and records literals that differ. -/
def evaluate (context : Nat) (refs : Bytecode.Immutables) (actual expected : String) :
    Action Bytecode.CompareError Bytecode.Comparison := do
  let c ← ofExcept (Bytecode.evaluate context refs actual expected)
  if c.literalMismatch then Action.record (literalEvent c)
  return c

/-- Prints a comparison's listing in colour, if that is wanted and there is one. -/
def showDiff (color : Bool) (c : Bytecode.Comparison) : Session Unit :=
  match c.diffText? true with
  | some text => if color then Action.print text else pure ()
  | none => pure ()

/-- Checks the bytecode of a contract. -/
def checkBytecode (nodes : Nodes) (color : Bool) (settings : Option BytecodeSettings)
    (address : String) (source : VerifiedSource) (fetched : List (String × String)) :
    Session Bytecode.Verdict := do
  let artifacts ← compiled source fetched
  let expected ← expectedCode nodes address artifacts settings
  let actual ← Action.require (.rpc (.noCode address)) (← nodes.remote.code address)
  let comparison ←
    (evaluate Bytecode.defaultContext artifacts.immutables actual expected).mapFailure .compare
  showDiff color comparison
  ofExcept (comparison.result.mapError .compare)

end DeployCheck.Verification
