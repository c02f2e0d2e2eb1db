import DeployCheck.Proofs.Verification.Twins

/-! Verifications and the token of the contents interface. The token is carried to this interface
and nowhere else, and what a verification finds does not depend on it. -/
namespace DeployCheck

open DeployCheck.Action DeployCheck.Session DeployCheck.Verification

variable {explorer : Option Explorer} {w : World} {value value' : Option String} {st : State}

/-! ## Settings -/

lemma World.setting_withToken {name : String} (hname : name ≠ Verifier.tokenVariable) :
    (w.withToken value).setting? name = w.setting? name := by
  simp [World.setting?, World.withToken, hname]

lemma World.setting_tokenVariable :
    (w.withToken value).setting? Verifier.tokenVariable = tokenOf value := by
  simp [World.setting?, World.withToken, tokenOf]

lemma Config.explorerIn_withToken {config : Config}
    (hhost : config.explorerHostVariable ≠ some Verifier.tokenVariable)
    (htoken : config.explorerTokenVariable ≠ some Verifier.tokenVariable) :
    config.explorerIn (w.withToken value) = config.explorerIn w := by
  have hsame : config.explorerTokenVariable.bind (w.withToken value).setting? =
      config.explorerTokenVariable.bind w.setting? := by
    cases hname : config.explorerTokenVariable with
    | none => rfl
    | some name => exact World.setting_withToken fun heq => htoken (heq ▸ hname)
  have hhostVariable : config.explorerHostVariable.getD "" ≠ Verifier.tokenVariable := by
    cases hname : config.explorerHostVariable with
    | none => decide
    | some name => exact fun heq => hhost (heq ▸ hname)
  unfold Config.explorerIn
  rw [hsame, World.setting_withToken hhostVariable]

/-- A value that is unset or that a header can carry. -/
def IsCarried (value : Option String) : Prop :=
  ∀ c ∈ (value.getD "").toList, Repository.Client.isHeaderChar c = true

instance (value : Option String) : Decidable (IsCarried value) := List.decidableBAll _ _

lemma IsCarried.withToken (h : IsCarried value) :
    Repository.Client.withToken (tokenOf value) = .ok ⟨tokenOf value⟩ := by
  have hchars : ((tokenOf value).getD "").toList.all Repository.Client.isHeaderChar = true := by
    rw [List.all_eq_true]
    cases value with
    | none => exact h
    | some text =>
      by_cases hempty : text = ""
      · rw [tokenOf, Option.filter_some, if_neg (by simpa using hempty)]
        exact fun c hc => absurd hc List.not_mem_nil
      · rw [tokenOf, Option.filter_some, if_pos (by simpa using hempty)]
        exact h
  unfold Repository.Client.withToken
  rw [if_pos hchars]

/-! ## Steps -/

lemma Session.blind_setting {name : String} (hname : name ≠ Verifier.tokenVariable) :
    Blind explorer w value value' st (Session.setting? name) := by
  intro a b h
  rw [run_setting, run_setting, World.setting_withToken hname, World.setting_withToken hname]
  exact ⟨rfl,h⟩

namespace Verifier

variable (v : Verifier)

lemma blind_remoteUrl : Blind explorer w value value' st v.remoteUrl := by
  unfold remoteUrl
  cases v.options.remoteUrl with
  | some url => exact keepStep_pure _
  | none => exact (blind_setting (by decide)).bind fun _ => keepStep_require _ _

variable (hw : w.IgnoresHeaders)

include hw

lemma blind_checkChain (remote : Connection) :
    Blind explorer w value value' st (v.checkChain remote) := by
  unfold checkChain
  cases v.config.chainId with
  | none => exact keepStep_pure _
  | some expected =>
    apply (remote.blind_chainId hw).bind
    intro actual
    exact (keepStep_throw _).ite (keepStep_pure _)

lemma blind_openNodes (settings : BytecodeSettings) :
    Blind explorer w value value' st (v.openNodes settings) := by
  unfold openNodes
  apply v.blind_remoteUrl.bind
  intro url
  apply (Rpc.blind_connect url).bind
  intro remote
  apply (v.blind_checkChain hw remote).bind
  intro _
  cases settings.nodeConfig with
  | none => exact keepStep_pure _
  | some name =>
    apply (LocalNode.blind_start _).bind
    intro _
    exact (Rpc.blind_connect _).bind fun _ => keepStep_pure _

lemma blind_prepare : Blind explorer w value value' st v.prepare := by
  unfold prepare
  cases v.bytecodeSettings with
  | none => exact keepStep_pure _
  | some settings => exact (v.blind_openNodes hw settings).bind fun _ => keepStep_pure _

lemma blind_bytecodeOutcome (nodes : Option Nodes) (address : String) (source : VerifiedSource)
    (fetched : List (String × String)) :
    Blind explorer w value value' st (v.bytecodeOutcome nodes address source fetched) := by
  cases nodes with
  | none => exact keepStep_pure _
  | some nodes =>
    unfold bytecodeOutcome
    apply KeepStep.bind
    · apply ((blind_checkBytecode hw _ _ _ _ _ _).bind fun _ => keepStep_pure _).tryCatch
      intro e
      exact (keepStep_throw_bind _ _ _).ite ((blind_record _).bind fun _ => keepStep_pure _)
    · intro outcome
      cases outcome <;> exact keepStep_pure _

/-! ## Runs -/

/-- Two clients with different tokens send twins, and all other requests are the same. -/
lemma reviewAlike_twins (hclient : v.client = ⟨tokenOf value⟩) :
    ReviewAlike (w.withToken value) (w.withToken value')
      (State.Twinned (some v.explorer) value value' st) v ⟨tokenOf value'⟩ where
  limit := rfl
  source _ _ := keepStep_twins hw rfl (.plain (.source rfl _))
  contents repository root path commit accept := by
    have hleft := Repository.contentsRequest_request v.client repository root path commit accept
    have hright := Repository.contentsRequest_request ⟨tokenOf value'⟩ repository root path commit
      accept
    rw [hclient] at hleft ⊢
    refine keepStep_twins hw rfl (.contents hleft hright ?_)
    rw [Repository.Client.unauthorized_request, Repository.Client.unauthorized_request]
  pages _ _ := ⟨rfl,blind_makeDirectories _,fun _ _ _ => blind_writeFile _ _ _⟩
  print := blind_print

lemma keepStep_run_twins (hclient : v.client = ⟨tokenOf value⟩) :
    KeepStep (w.withToken value) (w.withToken value')
      (State.Twinned (some v.explorer) value value' st) v.run
      (v.elsewhere ⟨tokenOf value'⟩ v.options.localUrl v.options.remoteUrl).run :=
  keepStep_run (v.reviewAlike_twins hw hclient) (v.blind_prepare hw)
    fun nodes => v.blind_bytecodeOutcome hw nodes

end Verifier

/-- What a verification finds does not depend on the token, whatever is configured and however the
world answers, as long as the answers do not depend on headers: with two tokens it has the same
result and leaves the same files, lines and events. What it asks the explorer, a node and the site
of the compilers is the same, and has no headers. What it asks the contents interface is the same up
to the authorization, which is the token where there is one. -/
theorem Verifier.verifyConfig_withToken (config : Config) (options : Options)
    (hvalue : IsCarried value) (hvalue' : IsCarried value')
    (hhost : config.explorerHostVariable ≠ some tokenVariable)
    (htoken : config.explorerTokenVariable ≠ some tokenVariable) (hw : w.IgnoresHeaders)
    (st : State) :
    let one := (verifyConfig config options).run (w.withToken value) st
    let two := (verifyConfig config options).run (w.withToken value') st
    one.1 = two.1 ∧ State.Twinned (config.explorerIn w) value value' st one.2 two.2 := by
  intro one two
  simp only [one, two, run_verifyConfig, Config.explorerIn_withToken hhost htoken,
    World.setting_tokenVariable, hvalue.withToken, hvalue'.withToken]
  cases config.explorerIn w with
  | none => exact ⟨rfl,.refl st⟩
  | some explorer =>
    exact keepStep_run_twins ⟨config, options, explorer, ⟨tokenOf value⟩⟩ hw rfl st st (.refl st)

/-- With a token and without one, a file is found missing under the same two addresses. -/
theorem Verifier.verifyConfig_withToken_secret :
    IsCarried (some "secret") ∧ IsCarried none ∧ uniformExplorer.IgnoresHeaders ∧
    let one := (verifyConfig sourcesOnly {}).run (uniformExplorer.withToken (some "secret")) {}
    let two := (verifyConfig sourcesOnly {}).run (uniformExplorer.withToken none) {}
    one.1 = two.1 ∧
      State.Twinned (sourcesOnly.explorerIn uniformExplorer) (some "secret") none {} one.2 two.2 ∧
      one.2.requests.map (fun r => (r.url, r.headers)) =
        [("https://blockscout.com/api/v2/smart-contracts/0x1", []),
          ("https://api.github.com/repos/owner/name/contents/A",
            [("accept", Repository.Client.rawFile), ("user-agent", "veriscan/0.1.0"),
              ("authorization", "token secret")])] := by
  have hsecret : IsCarried (some "secret") := by decide
  have hnone : IsCarried none := by decide
  have hblind : uniformExplorer.IgnoresHeaders := fun _ _ => rfl
  obtain ⟨hresult,htwinned⟩ := verifyConfig_withToken sourcesOnly {} hsecret hnone
    (by decide) (by decide) hblind {}
  exact ⟨hsecret,hnone,hblind,hresult,htwinned,by decide +kernel⟩

end DeployCheck
