import DeployCheck.Proofs.Calls
import DeployCheck.Proofs.Compiler.Compilation
import DeployCheck.Proofs.Repository.Sending
import DeployCheck.Proofs.Review.Rows
import DeployCheck.Proofs.Verification.Run

/-! What the steps of a verification add to the logs. All of them only add requests, and those that
run no compiler leave the compilations as they are. -/
namespace DeployCheck

open DeployCheck.Action DeployCheck.Session

theorem Explorer.asks_fetch (x : Explorer) (address : String) :
    (x.fetch address).Within State.Asks := by
  apply (asks_sendChecked _).bind
  intro reply
  exact (asks_parseBody reply).bind fun _ => within_ofExcept _

/-! ## Reviews -/

namespace Review

theorem asks_report (directory address : String) (index : Nat) (path content : String)
    (copy : Option String) :
    (report directory address index path content copy).Within State.Asks :=
  within_report (fun _ _ => ⟨List.prefix_rfl,rfl⟩) directory address index path content copy

theorem asks_extend {fetch : Fetch} (hfetch : ∀ r path, (fetch r path).Within State.Asks)
    (config : Config) (directory address : String) (review : Review)
    (sources : List (String × String)) :
    (extend fetch config directory address review sources).Within State.Asks := by
  induction sources generalizing review with
  | nil => exact within_pure _
  | cons source rest ih =>
    obtain ⟨path,content⟩ := source
    apply (hfetch _ _).bind
    intro copy
    exact (asks_report _ _ _ _ _ _).bind fun _ => ih _

end Review

/-! ## Compilers -/

namespace Compiler

theorem asks_buildOf (version : String) : (buildOf version).Within State.Asks := by
  apply (asks_sendChecked _).bind
  intro reply
  exact (within_require _ _).bind fun _ => within_require _ _

theorem asks_isCached (path : String) (build : Build) :
    (isCached path build).Within State.Asks := by
  refine Within.bind within_files fun fs => ?_
  split
  · exact (asks_contentsOf _).bind fun _ => within_pure _
  · exact within_pure _

theorem asks_ensure (directory : String) (build : Build) :
    (ensure directory build).Within State.Asks := by
  apply (asks_isCached _ _).bind
  intro cached
  split
  · exact within_pure _
  · apply (asks_sendChecked _).bind
    intro reply
    refine Within.bind (within_ofExcept _) fun _ => ?_
    apply (asks_makeDirectories _).bind
    intro _
    exact (asks_writeFile _ _ _).bind fun _ => within_pure _

lemma grows_started (w : World) (st : State) (c : Compilation) : st.Grows (started w st c) := by
  unfold started
  split
  · exact .refl st
  · exact ⟨List.prefix_rfl,List.prefix_append _ _⟩

theorem grows_compile (path : String) (input : CompilerInput) :
    (compile path input).Within State.Grows := by
  intro w st
  by_cases h : ∃ program, Runnable st.files path program
  · obtain ⟨program,hprogram⟩ := h
    rw [run_compile_of_runnable hprogram]
    exact grows_started w st _
  · rw [run_compile_of_not_runnable (not_exists.mp h)]

end Compiler

/-! ## Nodes -/

theorem LocalNode.asks_start (n : LocalNode) : n.start.Within State.Asks := by
  unfold start
  refine Within.bind (within_ofExcept _) fun address => ?_
  refine Within.bind within_files fun fs => ?_
  dsimp only
  by_cases hconfig : (!fs.isFile n.config) = true
  · rw [if_pos hconfig]
    exact within_throw_bind _ _
  rw [if_neg hconfig]
  refine Within.bind within_read fun w => ?_
  by_cases hbusy : w.isBusy address.1 address.2 = true
  · rw [if_pos hbusy]
    exact within_throw_bind _ _
  rw [if_neg hbusy]
  refine Within.bind (within_ofExcept _) fun _ => ?_
  refine Within.bind (within_modify fun _ => ⟨List.prefix_rfl,rfl⟩) fun _ => ?_
  split
  · exact (within_require _ _).bind fun _ => within_throw _
  · exact within_throw _
  · exact within_pure _

/-! ## Bytecode -/

namespace Verification

theorem asks_deployedCode (c : Connection) (data : List UInt8) :
    (deployedCode c data).Within State.Asks := by
  apply c.asks_accounts.bind
  intro accounts
  cases accounts with
  | nil => exact within_throw _
  | cons deployer others =>
    apply (c.asks_deploy _ _).bind
    intro address
    exact (c.asks_code _).bind fun _ => within_require _ _

theorem asks_expectedCode (nodes : Nodes) (address : String) (artifacts : Compiler.Artifacts)
    (settings : Option BytecodeSettings) :
    (expectedCode nodes address artifacts settings).Within State.Asks := by
  unfold expectedCode
  cases nodes.localNode with
  | none => exact within_pure _
  | some c => exact (within_ofExcept _).bind fun _ => asks_deployedCode c _

theorem asks_evaluate (context : Nat) (refs : Bytecode.Immutables) (actual expected : String) :
    (evaluate context refs actual expected).Within State.Asks := by
  refine Within.bind (within_ofExcept _) fun c => ?_
  split
  · exact (asks_record _).bind fun _ => within_pure _
  · exact within_pure _

theorem asks_showDiff (color : Bool) (c : Bytecode.Comparison) :
    (showDiff color c).Within State.Asks := by
  unfold showDiff
  split
  · split
    · exact asks_print _
    · exact within_pure _
  · exact within_pure _

theorem grows_compiled (source : VerifiedSource) (fetched : List (String × String)) :
    (compiled source fetched).Within State.Grows := by
  apply (Compiler.asks_buildOf _).grows.bind
  intro build
  apply (Compiler.asks_ensure _ _).grows.bind
  intro path
  apply (Compiler.grows_compile _ _).bind
  intro output
  exact (within_ofExcept _).bind fun _ => within_ofExcept _

theorem grows_checkBytecode (nodes : Nodes) (color : Bool) (settings : Option BytecodeSettings)
    (address : String) (source : VerifiedSource) (fetched : List (String × String)) :
    (checkBytecode nodes color settings address source fetched).Within State.Grows := by
  apply (grows_compiled _ _).bind
  intro artifacts
  apply (asks_expectedCode _ _ _ _).grows.bind
  intro expected
  apply (nodes.remote.asks_code _).grows.bind
  intro actual
  refine Within.bind (within_require _ _) fun actual => ?_
  apply ((asks_evaluate _ _ _ _).mapFailure _).grows.bind
  intro comparison
  apply (asks_showDiff _ _).grows.bind
  intro _
  exact within_ofExcept _

end Verification

namespace Verifier

open Verification

theorem asks_review (v : Verifier) (address : String) (source : VerifiedSource) :
    (v.review address source).Within State.Asks := by
  have hfetch := fun r path => v.client.within_fetch r asks_send v.options.recursive path
  apply (Review.asks_extend hfetch _ _ _ _ _).bind
  intro review
  split
  · exact (asks_print _).bind fun _ => within_pure _
  · exact within_pure _

theorem grows_bytecodeOutcome (v : Verifier) (nodes : Option Nodes) (address : String)
    (source : VerifiedSource) (review : Review) :
    (v.bytecodeOutcome nodes address source review.fetched).Within State.Grows := by
  intro w st
  cases nodes with
  | none => exact .refl st
  | some nodes =>
    have hcheck := grows_checkBytecode nodes v.options.color v.config.bytecode address source
      review.fetched w st
    rw [run_bytecodeOutcome_some]
    unfold check
    generalize Action.run _ w st = result at hcheck ⊢
    obtain ⟨e | verdict,last⟩ := result
    · dsimp only
      split
      · exact hcheck
      · exact ⟨hcheck.requests,hcheck.compilations⟩
    · exact hcheck

/-- What is left to do for a contract once its source is known and the user was asked. -/
def conclude (v : Verifier) (nodes : Option Nodes) (address name : String)
    (source : VerifiedSource) : Session ContractOutcome := do
  let review ← v.review address source
  let bytecode ← v.bytecodeOutcome nodes address source review.fetched
  return ⟨address, name, review.files, bytecode⟩

theorem verify_eq (v : Verifier) (nodes : Option Nodes) (address name : String) :
    v.verify nodes address name = (do
      let source ← v.explorer.fetch address
      ofExcept (source.ensureName name)
      if v.options.interactive then
        Action.print "Press Enter to proceed..."
        v.conclude nodes address name source
      else v.conclude nodes address name source) := rfl

/-- Whatever becomes of a contract, the logs only grow. -/
theorem grows_verify (v : Verifier) (nodes : Option Nodes) (address name : String) :
    (v.verify nodes address name).Within State.Grows := by
  rw [verify_eq]
  apply (v.explorer.asks_fetch _).grows.bind
  intro source
  have hrest : (v.conclude nodes address name source).Within State.Grows := by
    apply (v.asks_review _ _).grows.bind
    intro review
    exact (v.grows_bytecodeOutcome _ _ _ _).bind fun _ => within_pure _
  refine Within.bind (within_ofExcept _) fun _ => ?_
  split
  · exact (asks_print _).grows.bind fun _ => hrest
  · exact hrest

end Verifier

end DeployCheck
