import DeployCheck.Bytecode.Comparison
import DeployCheck.Review.Table

/-!
What a run found out, contract by contract.
-/
namespace DeployCheck

/-- What became of the bytecode of a contract. -/
inductive BytecodeOutcome where
  | skipped
  | verified (verdict : Bytecode.Verdict)
  | failed (reason : String)
deriving DecidableEq, Repr

def BytecodeOutcome.isFailed : BytecodeOutcome → Bool
  | .failed _ => true
  | _ => false

structure ContractOutcome where
  address : String
  name : String
  files : List Review.FileReport
  bytecode : BytecodeOutcome
deriving DecidableEq, Repr

/-- Whether the repository holds all of the contract's files with the same text. -/
def ContractOutcome.sourcesMatch (c : ContractOutcome) : Bool := Review.isClean c.files

/-- The outcomes of a run, in the order of its configuration. -/
structure Summary where
  contracts : List ContractOutcome := []
deriving DecidableEq, Repr

namespace Summary

/-- How many contracts have failing bytecode. -/
def failures (s : Summary) : Nat := s.contracts.countP fun c => c.bytecode.isFailed

/-- How many contracts have a missing or different file. -/
def sourceMismatches (s : Summary) : Nat := s.contracts.countP fun c => !c.sourcesMatch

def passed (s : Summary) : Bool := s.failures == 0

end Summary

end DeployCheck
