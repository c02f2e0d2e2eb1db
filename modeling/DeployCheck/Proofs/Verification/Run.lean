import DeployCheck.Proofs.Running
import DeployCheck.Verification.Basic

/-! Runs over the contracts of a configuration. Contracts are verified one after the other, each in
the state that those before it leave; the first that stops ends the run, and what would come later
has no part in it. -/
namespace DeployCheck.Verifier

open DeployCheck.Action Verification

section Steps

variable (v : Verifier) (nodes : Option Nodes) (w : World) (address name : String) (st : State)

/-- A contract's source is fetched, has the name expected, and is reviewed. -/
inductive Reviewed : VerifiedSource → Review → State → Prop
  | intro {source : VerifiedSource} {review : Review} {fetched last : State}
    (source_ok : (v.explorer.fetch address).run w st = (.ok source, fetched))
    (name_ok : source.ensureName name = .ok ())
    (review_ok : (v.review address source).run w fetched = (.ok review, last)) :
    Reviewed source review last

/-- The bytecode check of a reviewed contract. -/
abbrev check (nodes : Nodes) (source : VerifiedSource) (review : Review) :
    Session Bytecode.Verdict :=
  checkBytecode nodes v.options.color v.config.bytecode address source review.fetched

/-- A contract gets an outcome: its bytecode is not checked, or checked with success, or checked
without success where that does not end the run. -/
inductive Passes : ContractOutcome → State → Prop
  | skipped {source : VerifiedSource} {review : Review} {last : State}
    (reviewed : Reviewed v w address name st source review last) (off : nodes = none) :
    Passes ⟨address, name, review.files, .skipped⟩ last
  | verified {source : VerifiedSource} {review : Review} {next last : State} {ns : Nodes}
    {verdict : Bytecode.Verdict}
    (reviewed : Reviewed v w address name st source review next) (on : nodes = some ns)
    (check_ok : (v.check address ns source review).run w next = (.ok verdict, last)) :
    Passes ⟨address, name, review.files, .verified verdict⟩ last
  | failed {source : VerifiedSource} {review : Review} {next last : State} {ns : Nodes}
    {e : Failure}
    (reviewed : Reviewed v w address name st source review next) (on : nodes = some ns)
    (check_error : (v.check address ns source review).run w next = (.error e, last))
    (tolerant : v.config.failFast = false) :
    Passes ⟨address, name, review.files, .failed e.message⟩
      { last with events := last.events ++ [failureEvent address e] }

/-- A contract ends the run, in the state that the failing step leaves. -/
inductive Stops : Failure → State → Prop
  | source {e : Failure} {last : State}
    (source_error : (v.explorer.fetch address).run w st = (.error e, last)) : Stops e last
  | name {source : VerifiedSource} {e : Failure} {last : State}
    (source_ok : (v.explorer.fetch address).run w st = (.ok source, last))
    (name_error : source.ensureName name = .error e) : Stops e last
  | review {source : VerifiedSource} {e : Failure} {fetched last : State}
    (source_ok : (v.explorer.fetch address).run w st = (.ok source, fetched))
    (name_ok : source.ensureName name = .ok ())
    (review_error : (v.review address source).run w fetched = (.error e, last)) : Stops e last
  | bytecode {source : VerifiedSource} {review : Review} {e : Failure} {next last : State}
    {ns : Nodes} (reviewed : Reviewed v w address name st source review next)
    (on : nodes = some ns)
    (check_error : (v.check address ns source review).run w next = (.error e, last))
    (strict : v.config.failFast = true) : Stops e last

end Steps

/-- Contracts get outcomes one after the other. -/
inductive PassesAll (v : Verifier) (nodes : Option Nodes) (w : World) :
    State → List (String × String) → List ContractOutcome → State → Prop
  | nil (st : State) : PassesAll v nodes w st [] [] st
  | cons {st next last : State} {address name : String} {outcome : ContractOutcome}
    {rest : List (String × String)} {outcomes : List ContractOutcome}
    (head : Passes v nodes w address name st outcome next)
    (tail : PassesAll v nodes w next rest outcomes last) :
    PassesAll v nodes w st ((address, name) :: rest) (outcome :: outcomes) last

variable {v : Verifier} {nodes : Option Nodes} {w : World} {st last : State}

section Contract

variable {address name : String} {source : VerifiedSource}

lemma run_bytecodeOutcome_none {fetched : List (String × String)} :
    (v.bytecodeOutcome none address source fetched).run w st = (.ok .skipped, st) := rfl

lemma run_bytecodeOutcome_some {ns : Nodes} {review : Review} :
    (v.bytecodeOutcome (some ns) address source review.fetched).run w st =
      match (v.check address ns source review).run w st with
      | (.ok verdict, last) => (.ok (.verified verdict), last)
      | (.error e, last) =>
        if v.config.failFast then (.error e, last)
        else (.ok (.failed e.message),
          { last with events := last.events ++ [failureEvent address e] }) := by
  unfold bytecodeOutcome
  dsimp only
  rw [run_bind, run_tryCatch, run_bind]
  rcases (v.check address ns source review).run w st with ⟨e | verdict,last⟩
  · cases v.config.failFast <;> rfl
  · rfl

/-- The contracts that get an outcome are those that pass. -/
theorem verify_eq_ok_iff (hquiet : v.options.interactive = false) {outcome : ContractOutcome} :
    (v.verify nodes address name).run w st = (.ok outcome, last) ↔
      Passes v nodes w address name st outcome last := by
  unfold verify
  simp only [hquiet, Bool.false_eq_true, if_false, run_bind_eq_ok_iff, run_ofExcept, run_pure,
    Prod.mk.injEq, Except.ok.injEq]
  constructor
  · rintro ⟨source,fetched,hsource,_,_,⟨hname,rfl⟩,review,next,hreview,bytecode,last,hbytecode,
      rfl,rfl⟩
    have hreviewed := Reviewed.intro hsource hname hreview
    cases nodes with
    | none =>
      obtain ⟨rfl,rfl⟩ : _ = bytecode ∧ next = last := by
        simpa [run_bytecodeOutcome_none] using hbytecode
      exact .skipped hreviewed rfl
    | some ns =>
      rw [run_bytecodeOutcome_some] at hbytecode
      rcases hcheck : (v.check address ns source review).run w next with ⟨e | verdict,checked⟩
      · cases hfast : v.config.failFast with
        | true => simp [hcheck, hfast] at hbytecode
        | false =>
          obtain ⟨rfl,rfl⟩ : _ = bytecode ∧ _ = last := by
            simpa [hcheck, hfast] using hbytecode
          exact .failed hreviewed rfl hcheck hfast
      · obtain ⟨rfl,rfl⟩ : _ = bytecode ∧ checked = last := by simpa [hcheck] using hbytecode
        exact .verified hreviewed rfl hcheck
  · intro h
    cases h with
    | skipped hreviewed off =>
      obtain ⟨hsource,hname,hreview⟩ := hreviewed
      subst off
      exact ⟨_,_,hsource,(),_,⟨hname,rfl⟩,_,_,hreview,_,_,run_bytecodeOutcome_none,rfl,rfl⟩
    | verified hreviewed on hcheck =>
      obtain ⟨hsource,hname,hreview⟩ := hreviewed
      subst on
      exact ⟨_,_,hsource,(),_,⟨hname,rfl⟩,_,_,hreview,_,_,by
        rw [run_bytecodeOutcome_some, hcheck],rfl,rfl⟩
    | failed hreviewed on hcheck hfast =>
      obtain ⟨hsource,hname,hreview⟩ := hreviewed
      subst on
      exact ⟨_,_,hsource,(),_,⟨hname,rfl⟩,_,_,hreview,_,_,by
        rw [run_bytecodeOutcome_some, hcheck]; simp [hfast],rfl,rfl⟩

/-- The contracts that end a run are those that stop. -/
theorem verify_eq_error_iff (hquiet : v.options.interactive = false) {e : Failure} :
    (v.verify nodes address name).run w st = (.error e, last) ↔
      Stops v nodes w address name st e last := by
  unfold verify
  simp only [hquiet, Bool.false_eq_true, if_false, run_bind_eq_error_iff, run_ofExcept, run_pure,
    Prod.mk.injEq, reduceCtorEq, false_and, and_false, exists_false, or_false]
  constructor
  · rintro (hsource | ⟨source,fetched,hsource,⟨hname,rfl⟩ | ⟨_,_,⟨hname,rfl⟩,h⟩⟩)
    · exact .source hsource
    · exact .name hsource hname
    · rcases h with hreview | ⟨review,next,hreview,hbytecode⟩
      · exact .review hsource hname hreview
      · cases nodes with
        | none => simp [run_bytecodeOutcome_none] at hbytecode
        | some ns =>
          rw [run_bytecodeOutcome_some] at hbytecode
          rcases hcheck : (v.check address ns source review).run w next with
            ⟨e' | verdict,checked⟩
          · cases hfast : v.config.failFast with
            | false => simp [hcheck, hfast] at hbytecode
            | true =>
              obtain ⟨rfl,rfl⟩ : e' = e ∧ checked = last := by simpa [hcheck, hfast] using hbytecode
              exact .bytecode (.intro hsource hname hreview) rfl hcheck hfast
          · simp [hcheck] at hbytecode
  · intro h
    cases h with
    | source hsource => exact .inl hsource
    | name hsource hname => exact .inr ⟨_,_,hsource,.inl ⟨hname,rfl⟩⟩
    | review hsource hname hreview =>
      exact .inr ⟨_,_,hsource,.inr ⟨(),_,⟨hname,rfl⟩,.inl hreview⟩⟩
    | bytecode hreviewed on hcheck hfast =>
      obtain ⟨hsource,hname,hreview⟩ := hreviewed
      subst on
      exact .inr ⟨_,_,hsource,.inr ⟨(),_,⟨hname,rfl⟩,.inr ⟨_,_,hreview,by
        rw [run_bytecodeOutcome_some, hcheck]; simp [hfast]⟩⟩⟩

end Contract

/-! ## All contracts -/

variable {contracts : List (String × String)} {outcomes : List ContractOutcome}

theorem verifyAll_eq_ok_iff (hquiet : v.options.interactive = false) :
    (v.verifyAll nodes contracts).run w st = (.ok outcomes, last) ↔
      PassesAll v nodes w st contracts outcomes last := by
  induction contracts generalizing st outcomes last with
  | nil =>
    constructor
    · intro h
      obtain ⟨rfl,rfl⟩ : [] = outcomes ∧ st = last := by simpa [verifyAll] using h
      exact .nil st
    · intro h
      cases h
      rfl
  | cons c rest ih =>
    obtain ⟨address,name⟩ := c
    simp only [verifyAll, run_bind_eq_ok_iff, verify_eq_ok_iff hquiet, ih, run_pure,
      Prod.mk.injEq, Except.ok.injEq]
    constructor
    · rintro ⟨outcome,next,hhead,outcomes,_,htail,rfl,rfl⟩
      exact .cons hhead htail
    · intro h
      cases h with
      | cons hhead htail => exact ⟨_,_,hhead,_,_,htail,rfl,rfl⟩

/-- Verifying contracts fails where the first of them stops; those before it pass, and those behind
it have no part in the failure. -/
theorem verifyAll_eq_error_iff (hquiet : v.options.interactive = false) {e : Failure} :
    (v.verifyAll nodes contracts).run w st = (.error e, last) ↔
      ∃ passed address name later outcomes mid, contracts = passed ++ (address, name) :: later ∧
        PassesAll v nodes w st passed outcomes mid ∧
        Stops v nodes w address name mid e last := by
  induction contracts generalizing st with
  | nil => simp [verifyAll]
  | cons c rest ih =>
    obtain ⟨address,name⟩ := c
    simp only [verifyAll, run_bind_eq_error_iff, verify_eq_ok_iff hquiet,
      verify_eq_error_iff hquiet, ih, run_pure, Prod.mk.injEq, reduceCtorEq, false_and,
      and_false, exists_false, or_false]
    constructor
    · rintro (hstop | ⟨outcome,next,hhead,passed,address',name',later,outcomes,mid,rfl,hpassed,
        hstop⟩)
      · exact ⟨[],address,name,rest,[],st,rfl,.nil st,hstop⟩
      · exact ⟨_ :: passed,address',name',later,_ :: outcomes,mid,rfl,.cons hhead hpassed,hstop⟩
    · rintro ⟨passed,address',name',later,outcomes,mid,hcontracts,hpassed,hstop⟩
      cases hpassed with
      | nil =>
        obtain ⟨⟨rfl,rfl⟩,rfl⟩ : (address = address' ∧ name = name') ∧ rest = later := by
          simpa using hcontracts
        exact .inl hstop
      | cons hhead htail =>
        obtain ⟨⟨rfl,rfl⟩,rfl⟩ := by simpa using hcontracts
        exact .inr ⟨_,_,hhead,_,_,_,_,_,_,rfl,htail,hstop⟩

/-- Behind contracts that pass, a run goes on in the state that they leave. -/
theorem run_verifyAll_append (hquiet : v.options.interactive = false) {mid : State}
    (h : PassesAll v nodes w st contracts outcomes mid) (later : List (String × String)) :
    (v.verifyAll nodes (contracts ++ later)).run w st =
      match (v.verifyAll nodes later).run w mid with
      | (.ok rest, last) => (.ok (outcomes ++ rest), last)
      | (.error e, last) => (.error e, last) := by
  induction h with
  | nil st =>
    rw [List.nil_append]
    rcases (v.verifyAll nodes later).run w st with ⟨e | rest,last⟩ <;> rfl
  | cons hhead _ ih =>
    rw [List.cons_append, verifyAll, run_bind, (verify_eq_ok_iff hquiet).mpr hhead]
    dsimp only
    rw [run_bind, ih]
    rcases Action.run _ _ _ with ⟨e | rest,last⟩ <;> rfl

lemma PassesAll.contracts_eq (h : PassesAll v nodes w st contracts outcomes last) :
    outcomes.map (fun c => (c.address, c.name)) = contracts := by
  induction h with
  | nil => rfl
  | cons hhead _ ih => cases hhead <;> rw [List.map_cons, ih]

lemma PassesAll.exists_passes (h : PassesAll v nodes w st contracts outcomes last) :
    ∀ c ∈ outcomes, ∃ address name before after, Passes v nodes w address name before c after := by
  induction h with
  | nil => simp
  | cons hhead _ ih => exact List.forall_mem_cons.mpr ⟨⟨_,_,_,_,hhead⟩,ih⟩

lemma PassesAll.skipped (h : PassesAll v none w st contracts outcomes last) :
    ∀ c ∈ outcomes, c.bytecode = .skipped := by
  intro c hc
  obtain ⟨_,_,_,_,hpass⟩ := h.exists_passes c hc
  cases hpass with
  | skipped => rfl
  | verified _ on => cases on
  | failed _ on => cases on

lemma PassesAll.not_failed (h : PassesAll v nodes w st contracts outcomes last)
    (hfast : v.config.failFast = true) : ∀ c ∈ outcomes, c.bytecode.isFailed = false := by
  intro c hc
  obtain ⟨_,_,_,_,hpass⟩ := h.exists_passes c hc
  cases hpass with
  | skipped => rfl
  | verified => rfl
  | failed _ _ _ tolerant => simp [hfast] at tolerant

/-! ## Runs -/

lemma prepare_of_disabled (h : v.options.skipBytecode = true ∨ v.config.bytecode = none) :
    (v.prepare).run w st = (.ok none, st) := by
  have hnone : v.bytecodeSettings = none := by
    unfold bytecodeSettings
    rcases h with h | h <;> simp [h]
  unfold prepare
  rw [hnone]
  rfl

/-- After its set-up, a run is that of its contracts. -/
lemma run_run {ready : State} (h : (v.prepare).run w st = (.ok nodes, ready)) :
    (v.run).run w st = match (v.verifyAll nodes v.config.contracts).run w ready with
      | (.ok outcomes, last) => (.ok ⟨outcomes⟩, last)
      | (.error e, last) => (.error e, last) := by
  unfold run
  rw [run_bind, h]
  dsimp only
  rw [run_bind]
  rcases Action.run _ _ _ with ⟨e | rest,last⟩ <;> rfl

theorem run_eq_ok_iff (hquiet : v.options.interactive = false) {summary : Summary} :
    (v.run).run w st = (.ok summary, last) ↔
      ∃ nodes ready, (v.prepare).run w st = (.ok nodes, ready) ∧
        PassesAll v nodes w ready v.config.contracts summary.contracts last := by
  unfold run
  simp only [run_bind_eq_ok_iff, verifyAll_eq_ok_iff hquiet, run_pure, Prod.mk.injEq,
    Except.ok.injEq]
  constructor
  · rintro ⟨nodes,ready,hready,outcomes,_,hpass,rfl,rfl⟩
    exact ⟨nodes,ready,hready,hpass⟩
  · rintro ⟨nodes,ready,hready,hpass⟩
    exact ⟨nodes,ready,hready,_,_,hpass,rfl,rfl⟩

/-- A run that succeeds has an outcome for every contract, in order. A run that fails after its
set-up fails at the first contract that stops, and would fail so whatever came after that contract.
Where bytecode failures are tolerated, such a failure is noted and the run goes on behind it. -/
theorem run_contracts (hquiet : v.options.interactive = false) :
    (∀ summary, (v.run).run w st = (.ok summary, last) →
      summary.contracts.map (fun c => (c.address, c.name)) = v.config.contracts ∧
      (v.options.skipBytecode = true ∨ v.config.bytecode = none →
        ∀ c ∈ summary.contracts, c.bytecode = .skipped) ∧
      (v.config.failFast = true → ∀ c ∈ summary.contracts, c.bytecode.isFailed = false)) ∧
    (∀ nodes ready e, (v.prepare).run w st = (.ok nodes, ready) →
      (v.run).run w st = (.error e, last) →
        ∃ passed address name later outcomes mid,
          v.config.contracts = passed ++ (address, name) :: later ∧
          PassesAll v nodes w ready passed outcomes mid ∧
          Stops v nodes w address name mid e last ∧
          ∀ others, (v.verifyAll nodes (passed ++ (address, name) :: others)).run w ready =
            (.error e, last)) ∧
    (v.config.failFast = false → ∀ ns ready passed address name later outcomes mid source review
      next e checked, (v.prepare).run w st = (.ok (some ns), ready) →
        v.config.contracts = passed ++ (address, name) :: later →
        PassesAll v (some ns) w ready passed outcomes mid →
        Reviewed v w address name mid source review next →
        (v.check address ns source review).run w next = (.error e, checked) →
        (v.run).run w st =
          match (v.verifyAll (some ns) later).run w
            { checked with events := checked.events ++ [failureEvent address e] } with
          | (.ok rest, last) =>
            (.ok ⟨outcomes ++ ⟨address, name, review.files, .failed e.message⟩ :: rest⟩, last)
          | (.error e, last) => (.error e, last)) := by
  refine ⟨?_,?_,?_⟩
  · intro summary h
    obtain ⟨nodes,ready,hready,hpass⟩ := (run_eq_ok_iff hquiet).mp h
    refine ⟨hpass.contracts_eq,?_,hpass.not_failed⟩
    intro hoff
    obtain ⟨rfl,rfl⟩ : none = nodes ∧ st = ready := by simpa [prepare_of_disabled hoff] using hready
    exact hpass.skipped
  · intro nodes ready e hready h
    rw [run_run hready] at h
    have hverify : (v.verifyAll nodes v.config.contracts).run w ready = (.error e, last) := by
      rcases hrun : Action.run _ _ _ with ⟨e' | rest,last'⟩ <;> simp_all
    obtain ⟨passed,address,name,later,outcomes,mid,hcontracts,hpassed,hstop⟩ :=
      (verifyAll_eq_error_iff hquiet).mp hverify
    exact ⟨passed,address,name,later,outcomes,mid,hcontracts,hpassed,hstop,fun others =>
      (verifyAll_eq_error_iff hquiet).mpr ⟨_,_,_,_,_,_,rfl,hpassed,hstop⟩⟩
  · intro htolerant ns ready passed address name later outcomes mid source review next e checked
      hready hcontracts hpassed hreviewed hcheck
    have hpass := (verify_eq_ok_iff hquiet).mpr (.failed hreviewed rfl hcheck htolerant)
    rw [run_run hready, hcontracts, run_verifyAll_append hquiet hpassed, verifyAll, run_bind, hpass]
    dsimp only
    rw [run_bind]
    rcases Action.run _ _ _ with ⟨e | rest,last⟩ <;> rfl

/-- A verifier that asks one explorer and skips the bytecode step. -/
def bare (contracts : List (String × String)) : Verifier where
  config := .bare contracts ⟨"https://github.com/owner/name", "", ""⟩
  options := {}
  explorer := ⟨"blockscout.com", none, none⟩
  client := ⟨none⟩

/-- An explorer that reports every contract as `A` with one file, which no repository holds. -/
def uniformExplorer : World := .answering fun url =>
  if Text.startsWith "https://blockscout.com/" url then
    some ⟨200, "\x7b\"name\": \"A\", \"compiler_version\": \"\", \"source_code\": \"\"\x7d"⟩
  else some ⟨404, ""⟩

/-- Contracts of which the second is reported under another name. -/
def oneMisnamed : List (String × String) := [("0x1", "A"), ("0x2", "B"), ("0x3", "A")]

/-- A run that stops at the second of three contracts sends nothing for the third. -/
theorem run_contracts_second_stops : ∃ e last,
    ((bare oneMisnamed).run).run uniformExplorer {} = (.error e, last) ∧
    last.requests.map (·.url) =
      ["https://blockscout.com/api/v2/smart-contracts/0x1",
        "https://api.github.com/repos/owner/name/contents/A",
        "https://blockscout.com/api/v2/smart-contracts/0x2"] ∧
    ∃ passed address name later outcomes mid,
      oneMisnamed = passed ++ (address, name) :: later ∧
      PassesAll (bare oneMisnamed) none uniformExplorer {} passed outcomes mid ∧
      Stops (bare oneMisnamed) none uniformExplorer address name mid e last := by
  rcases hrun : Action.run _ _ _ with ⟨e | summary,last⟩
  · have hurls := congrArg (fun result => result.2.requests.map (·.url)) hrun
    obtain ⟨passed,address,name,later,outcomes,mid,hcontracts,hpassed,hstop,-⟩ :=
      (run_contracts rfl).2.1 none {} e (prepare_of_disabled (.inr rfl)) hrun
    refine ⟨e,last,rfl,hurls.symm.trans ?_,passed,address,name,later,outcomes,mid,hcontracts,
      hpassed,hstop⟩
    decide +kernel
  · have hok : (((bare oneMisnamed).run).run uniformExplorer {}).1.isOk = true :=
      congrArg (fun result => result.1.isOk) hrun
    exact absurd hok (by decide +kernel)

end DeployCheck.Verifier
