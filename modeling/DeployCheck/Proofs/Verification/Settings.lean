import DeployCheck.Proofs.Requests
import DeployCheck.Verification.Basic

/-! Settings of a verification. What a verifier is built from depends on the environment through a
few variables, and building it leaves no trace. -/
namespace DeployCheck

open DeployCheck.Action

/-- A variable of the environment that is set and not empty. -/
def World.setting? (w : World) (name : String) : Option String :=
  (w.environment name).filter (· != "")

/-- The explorer that a configuration names in a world. -/
def Config.explorerIn (config : Config) (w : World) : Option Explorer :=
  (config.explorerHost.or (w.setting? (config.explorerHostVariable.getD ""))).map fun host =>
    ⟨host, config.explorerTokenVariable.bind w.setting?, config.chainId⟩

variable {config : Config} {options : Options} {w : World} {st : State}

@[simp] lemma run_setting (name : String) :
    (Session.setting? name).run w st = (.ok (w.setting? name), st) := rfl

lemma Config.run_resolveHost : config.resolveHost.run w st =
    match config.explorerHost.or (w.setting? (config.explorerHostVariable.getD "")) with
    | none => (.error (.configuration (.unsetVariable (config.explorerHostVariable.getD ""))), st)
    | some host => (.ok host, st) := by
  unfold resolveHost
  cases config.explorerHost with
  | some host => rfl
  | none =>
    dsimp only
    rw [run_bind, run_setting, Option.none_or]
    cases w.setting? (config.explorerHostVariable.getD "") <;> rfl

lemma Config.run_resolveToken : config.resolveToken.run w st =
    (.ok (config.explorerTokenVariable.bind w.setting?), st) := by
  unfold resolveToken
  cases config.explorerTokenVariable <;> rfl

namespace Verifier

/-- The variable for the token of the contents interface. -/
def tokenVariable : String := "GITHUB_API_TOKEN"

/-- A verifier is built from the explorer and the token that are set, unless there is no explorer or
no header can carry the token. -/
theorem run_ofConfig : (ofConfig config options).run w st = match config.explorerIn w with
    | none => (.error (.configuration (.unsetVariable (config.explorerHostVariable.getD ""))), st)
    | some explorer => match Repository.Client.withToken (w.setting? tokenVariable) with
      | .error e => (.error e, st)
      | .ok client => (.ok ⟨config, options, explorer, client⟩, st) := by
  unfold ofConfig Config.explorerIn tokenVariable
  rw [run_bind, Config.run_resolveHost]
  cases config.explorerHost.or (w.setting? (config.explorerHostVariable.getD "")) with
  | none => rfl
  | some host =>
    dsimp only [Option.map_some]
    rw [run_bind, Config.run_resolveToken]
    dsimp only
    rw [run_bind, run_setting]
    dsimp only
    rw [run_bind, run_ofExcept]
    cases Repository.Client.withToken (w.setting? "GITHUB_API_TOKEN") <;> rfl

/-- Builds the verifier of a configuration and runs it. -/
def verifyConfig (config : Config) (options : Options) : Session Summary := do
  (← ofConfig config options).run

/-- A configuration is verified by the verifier that is built for it, if one can be built. -/
theorem run_verifyConfig : (verifyConfig config options).run w st = match config.explorerIn w with
    | none => (.error (.configuration (.unsetVariable (config.explorerHostVariable.getD ""))), st)
    | some explorer => match Repository.Client.withToken (w.setting? tokenVariable) with
      | .error e => (.error e, st)
      | .ok client => (Verifier.mk config options explorer client).run.run w st := by
  unfold verifyConfig
  rw [run_bind, run_ofConfig]
  cases config.explorerIn w with
  | none => rfl
  | some explorer =>
    dsimp only
    cases Repository.Client.withToken (w.setting? tokenVariable) <;> rfl

/-- A configuration of one contract that says nothing of its bytecode. -/
def sourcesOnly : Config :=
  { Config.bare [("0x1", "A")] ⟨"https://github.com/owner/name", "", ""⟩ with
    explorerHost := some "blockscout.com" }

end Verifier

end DeployCheck
