import DeployCheck.Proofs.Review.Texts
import DeployCheck.Proofs.Verification.Growth

/-! What stands behind a verdict. A contract is reported as verified only if its whole chain is in
the logs of the run: the explorer's source under the right name, a compilation of the repository's
texts by a program with the digest of the right build, and the codes that were compared, each from
the node and the address that it is said to be from. -/
namespace DeployCheck

open DeployCheck.Action DeployCheck.Session

variable {w : World} {st last : State}

/-! ## Sources -/

/-- An exchange in which the explorer reports the source of a contract. -/
structure Explorer.Reports (x : Explorer) (address : String) (answer : Exchange)
    (source : VerifiedSource) : Prop where
  request : answer.request = .get (x.sourceUrl address)
  source : ∃ body, answer.reply.body.json? = some body ∧ parse x.kind body = .ok source

theorem Explorer.sent_of_fetch {x : Explorer} {address : String} {source : VerifiedSource}
    (h : (x.fetch address).run w st = (.ok source, last)) :
    ∃ answer, Sent w st answer last ∧ x.Reports address answer source := by
  obtain ⟨reply,sent,hreply,h⟩ := run_bind_eq_ok_iff.mp h
  obtain ⟨body,parsed,hbody,h⟩ := run_bind_eq_ok_iff.mp h
  obtain ⟨hparse,rfl⟩ := require_eq_ok_iff.mp hbody
  obtain ⟨hsource,rfl⟩ := run_ofExcept_eq_iff.mp h
  exact ⟨_,sent_of_sendChecked hreply,⟨rfl,body,hparse,hsource⟩⟩

theorem VerifiedSource.ensureName_eq_ok_iff {s : VerifiedSource} {name : String} {u : Unit} :
    s.ensureName name = .ok u ↔ s.name = name := by
  unfold ensureName
  split <;> simp_all

/-! ## Compilations -/

namespace Compiler

/-- An exchange in which the list of builds has the build of a version. -/
structure Lists (x : Exchange) (version : String) (build : Build) : Prop where
  request : x.request = .get (downloadUrl "list.json")
  listed : ∃ builds, (x.reply.body.text?.bind (Json.parseAs? Build.listShape)).bind
    Build.listOfJson = some builds ∧ build ∈ builds
  version : Text.IsWithout "v" version build.longVersion

theorem sent_of_buildOf {version : String} {build : Build}
    (h : (buildOf version).run w st = (.ok build, last)) :
    ∃ x, Sent w st x last ∧ Lists x version build := by
  obtain ⟨reply,sent,hreply,h⟩ := run_bind_eq_ok_iff.mp h
  obtain ⟨builds,listed,hbuilds,h⟩ := run_bind_eq_ok_iff.mp h
  obtain ⟨hlist,rfl⟩ := require_eq_ok_iff.mp hbuilds
  obtain ⟨hfind,rfl⟩ := require_eq_ok_iff.mp h
  have hversion : build.longVersion = Build.plainVersion version := by
    simpa using List.find?_some hfind
  refine ⟨_,sent_of_sendChecked hreply,⟨rfl,⟨builds,hlist,List.mem_of_find?_eq_some hfind⟩,?_⟩⟩
  rw [hversion]
  exact Text.isWithout_getD_textAfter? _ _

/-- One file of an output has a contract of a name, and no other file has one. -/
def OnlyContract (output : Json) (name : String) (contract : Json) : Prop :=
  ∃ earlier file later,
    (output.get? "contracts").bind Json.asObject? = some (earlier ++ file :: later) ∧
    file.2.get? name = some contract ∧ ∀ other ∈ earlier ++ later, other.2.get? name = none

theorem onlyContract_of_targetContract {output contract : Json} {name : String}
    (h : targetContract output name = .ok contract) : OnlyContract output name contract := by
  unfold targetContract at h
  split at h
  · next only hnamed =>
    obtain rfl := Except.ok.inj h
    unfold contractsNamed at hnamed
    cases hfiles : (output.get? "contracts").bind Json.asObject? with
    | none => simp [hfiles] at hnamed
    | some files =>
      rw [hfiles, Option.getD_some, List.filterMap_eq_cons_iff] at hnamed
      obtain ⟨earlier,file,later,rfl,hearlier,hfile,hlater⟩ := hnamed
      refine ⟨earlier,file,later,hfiles,hfile,fun other hother => ?_⟩
      rcases List.mem_append.mp hother with hmem | hmem
      · exact hearlier other hmem
      · exact List.filterMap_eq_nil_iff.mp hlater other hmem
  · cases h
  · cases h

end Compiler

namespace Verification

/-- A compilation that gives the artifacts of a source: the program run has the digest of the build
of the source's version, and the artifacts are those of the only contract of its name. -/
structure Compiles (w : World) (source : VerifiedSource) (listing : Exchange) (c : Compilation)
    (artifacts : Compiler.Artifacts) : Prop where
  program : ∃ build, Compiler.Lists listing source.compilerVersion build ∧
    c.path = Path.join compilerDirectory build.path ∧
    Build.Identifies build.keccak256 c.program.bytes
  output : ∃ output contract, Compiler.answer w c.program c.input = .ok output ∧
    Compiler.OnlyContract output source.name contract ∧
    Compiler.Artifacts.ofContract contract = .ok artifacts

theorem compiles_of_compiled {source : VerifiedSource} {fetched : List (String × String)}
    {artifacts : Compiler.Artifacts}
    (h : (compiled source fetched).run w st = (.ok artifacts, last)) :
    ∃ listing c, Exchanges w st.requests [listing] last.requests ∧
      last.compilations = st.compilations ++ [c] ∧ c.input = source.input.withTexts fetched ∧
      Compiles w source listing c artifacts := by
  obtain ⟨build,listed,hbuild,h⟩ := run_bind_eq_ok_iff.mp h
  obtain ⟨path,ensured,hensure,h⟩ := run_bind_eq_ok_iff.mp h
  obtain ⟨output,compiled,hcompile,h⟩ := run_bind_eq_ok_iff.mp h
  obtain ⟨contract,_,hcontract,h⟩ := run_bind_eq_ok_iff.mp h
  obtain ⟨htarget,rfl⟩ := run_ofExcept_eq_iff.mp hcontract
  obtain ⟨hartifacts,rfl⟩ := run_ofExcept_eq_iff.mp h
  obtain ⟨listing,hsent,hlists⟩ := Compiler.sent_of_buildOf hbuild
  have hasks := (Compiler.asks_ensure _ _).of_run hensure
  obtain ⟨rfl,hprovides⟩ := Compiler.ensure_eq_ok_iff.mp hensure
  obtain ⟨program,hrunnable,hanswer,rfl⟩ := Compiler.compile_eq_ok_iff.mp hcompile
  have hdigest := hprovides.identifies hrunnable.2
  refine ⟨listing,⟨Path.join compilerDirectory build.path,program,source.input.withTexts fetched⟩,
    hsent.exchanges.append (.nil hasks.requests),?_,rfl,⟨?_,?_⟩⟩
  · rw [hasks.compilations, hsent.compilations]
  · exact ⟨build,hlists,rfl,hdigest⟩
  · exact ⟨output,contract,hanswer,
      Compiler.onlyContract_of_targetContract (Result.mapError_eq_ok_iff.mp htarget),
      Result.mapError_eq_ok_iff.mp hartifacts⟩

end Verification

namespace Verifier

open Verification

/-- The address of the remote chain, given as an option or else by the environment. -/
def IsRemote (v : Verifier) (w : World) (url : String) : Prop :=
  v.options.remoteUrl = some url ∨
    v.options.remoteUrl = none ∧ w.environment "REMOTE_RPC_URL" = some url

/-- The code expected on the chain, with the exchanges that lead to it: without a configured node it
is the compiler's own, and otherwise what the local node has where the compiled code was deployed
with the constructor data of the address. -/
inductive Expects (v : Verifier) (address : String) (artifacts : Compiler.Artifacts) :
    List Exchange → String → Prop
  | compiled {settings : BytecodeSettings} (on : v.bytecodeSettings = some settings)
    (no_node : settings.nodeConfig = none) : Expects v address artifacts [] artifacts.runtimeCode
  | deployed {settings : BytecodeSettings} {config deployer deployed digits : String}
    {others : List String} {accounts : Json} {code : List UInt8} {data : Option (List UInt8)}
    {x y z u : Exchange} (on : v.bytecodeSettings = some settings)
    (node : settings.nodeConfig = some config)
    (creation : Text.Hex.read artifacts.creationCode = .ok code)
    (constructor : constructorData address artifacts.abi (some settings) = .ok data)
    (accounts_ok : Rpc.Returns v.options.localUrl "eth_accounts" (.arr []) x accounts)
    (deployer_ok : Json.listOf Json.asString? accounts = some (deployer :: others))
    (deploys : Rpc.Deploys v.options.localUrl deployer (code ++ data.getD []) y z deployed)
    (holds : Rpc.GivesCode v.options.localUrl deployed u digits) :
    Expects v address artifacts [x, y, z, u] digits

/-- The nodes of a run: those that its options and its configuration name. -/
structure Opens (v : Verifier) (w : World) (nodes : Nodes) : Prop where
  remote : v.IsRemote w nodes.remote.url
  settings : ∃ settings, v.bytecodeSettings = some settings ∧
    match settings.nodeConfig with
    | none => nodes.localNode = none
    | some _ => ∃ c, nodes.localNode = some c ∧ c.url = v.options.localUrl

lemma config_of_bytecodeSettings {v : Verifier} {settings : BytecodeSettings}
    (h : v.bytecodeSettings = some settings) : v.config.bytecode = some settings := by
  unfold bytecodeSettings at h
  split at h
  · cases h
  · exact h

lemma evaluate_of_run {context : Nat} {refs : Bytecode.Immutables} {actual expected : String}
    {c : Bytecode.Comparison}
    (h : (evaluate context refs actual expected).run w st = (.ok c, last)) :
    Bytecode.evaluate context refs actual expected = .ok c := by
  obtain ⟨comparison,_,hcomparison,h⟩ := run_bind_eq_ok_iff.mp h
  obtain ⟨hevaluate,rfl⟩ := run_ofExcept_eq_iff.mp hcomparison
  split at h
  · obtain ⟨_,_,-,h⟩ := run_bind_eq_ok_iff.mp h
    cases h
    exact hevaluate
  · cases h
    exact hevaluate

theorem expects_of_expectedCode {v : Verifier} {nodes : Nodes} {address expected : String}
    {artifacts : Compiler.Artifacts} (hopens : v.Opens w nodes)
    (h : (expectedCode nodes address artifacts v.config.bytecode).run w st =
      (.ok expected, last)) :
    ∃ xs, Exchanges w st.requests xs last.requests ∧ v.Expects address artifacts xs expected := by
  obtain ⟨settings,hsettings,hnode⟩ := hopens.settings
  unfold expectedCode at h
  cases hconfig : settings.nodeConfig with
  | none =>
    rw [hconfig] at hnode
    rw [show nodes.localNode = none from hnode] at h
    cases h
    exact ⟨[],.nil List.prefix_rfl,.compiled hsettings hconfig⟩
  | some config =>
    rw [hconfig] at hnode
    obtain ⟨c,hc,hurl⟩ := hnode
    rw [hc, config_of_bytecodeSettings hsettings] at h
    obtain ⟨bytes,_,hbytes,h⟩ := run_bind_eq_ok_iff.mp h
    obtain ⟨hcreation,rfl⟩ := run_ofExcept_eq_iff.mp hbytes
    obtain ⟨data,hdata,hcode⟩ := Result.bind_eq_ok_iff.mp hcreation
    obtain ⟨code,hread,hjoin⟩ := Result.bind_eq_ok_iff.mp hcode
    obtain rfl := Except.ok.inj hjoin
    obtain ⟨accounts,asked,haccounts,h⟩ := run_bind_eq_ok_iff.mp h
    obtain ⟨x,list,hsent,hreturns,hlist⟩ := Connection.sent_of_accounts haccounts
    cases accounts with
    | nil => cases h
    | cons deployer others =>
      obtain ⟨deployed,received,hdeploy,h⟩ := run_bind_eq_ok_iff.mp h
      obtain ⟨y,z,hexchanges,hdeploys⟩ := Connection.exchanges_of_deploy hdeploy
      obtain ⟨digits,found,hcode,h⟩ := run_bind_eq_ok_iff.mp h
      obtain ⟨rfl,rfl⟩ := require_eq_ok_iff.mp h
      obtain ⟨u,hlater,hgives⟩ := Connection.sent_of_code hcode
      rw [hurl] at hreturns hdeploys hgives
      exact ⟨[x,y,z,u],hsent.exchanges.append (hexchanges.append hlater.exchanges),
        .deployed hsettings hconfig (Result.mapError_eq_ok_iff.mp hread) hdata hreturns hlist
          hdeploys hgives⟩

/-! ## Contracts -/

/-- What stands behind the verdict on a contract. -/
structure Evidence where
  source : VerifiedSource
  /-- The files reviewed, each with the repository's text. -/
  rows : List (Review.FileReport × Option String)
  compilation : Compilation
  artifacts : Compiler.Artifacts
  expected : String
  actual : String
  /-- The exchange with the explorer. -/
  answer : Exchange
  /-- The exchange that names the build. -/
  listing : Exchange
  /-- The exchanges with the local node. -/
  deployment : List Exchange
  /-- The exchange with the remote chain. -/
  remote : Exchange

/-- Evidence supports a verdict on a contract that was reached between two states. The review lies
between the exchange with the explorer and all others. -/
structure Evidence.Supports (e : Evidence) (v : Verifier) (w : World) (outcome : ContractOutcome)
    (verdict : Bytecode.Verdict) (before after : State) : Prop where
  source : v.explorer.Reports outcome.address e.answer e.source
  name : e.source.name = outcome.name
  review : ∃ fetched reviewed, Exchanges w before.requests [e.answer] fetched.requests ∧
    Review.Reviews (v.client.fetch v.options.recursive) v.config v.options.directory
      outcome.address w 0 fetched e.source.input.sources e.rows reviewed ∧
    Exchanges w reviewed.requests (e.listing :: e.deployment ++ [e.remote]) after.requests
  files : outcome.files = e.rows.map Prod.fst
  compilation : after.compilations = before.compilations ++ [e.compilation]
  input : e.compilation.input = e.source.input.withTexts (Review.gather [] e.rows)
  compiles : Compiles w e.source e.listing e.compilation e.artifacts
  expected : v.Expects outcome.address e.artifacts e.deployment e.expected
  actual : ∃ url, v.IsRemote w url ∧ Rpc.GivesCode url outcome.address e.remote e.actual
  verdict : Bytecode.compare e.artifacts.immutables e.actual e.expected = .ok verdict

variable {v : Verifier} {nodes : Option Nodes} {address name : String}
variable {outcome : ContractOutcome} {verdict : Bytecode.Verdict}

theorem reviews_of_review {source : VerifiedSource} {review : Review}
    (h : (v.review address source).run w st = (.ok review, last)) :
    ∃ rows mid, Review.Reviews (v.client.fetch v.options.recursive) v.config v.options.directory
      address w 0 st source.input.sources rows mid ∧ mid.Asks last ∧
      review = ⟨rows.map Prod.fst, Review.gather [] rows⟩ := by
  obtain ⟨result,mid,hrun,h⟩ := run_bind_eq_ok_iff.mp h
  obtain ⟨rows,hrows,rfl⟩ := Review.run_eq_ok_iff.mp hrun
  refine ⟨rows,mid,hrows,?_⟩
  split at h
  · obtain ⟨_,printed,hprint,h⟩ := run_bind_eq_ok_iff.mp h
    cases h
    exact ⟨(asks_print _).of_run hprint,rfl⟩
  · cases h
    exact ⟨.refl _,rfl⟩

theorem compare_of_checkBytecode {ns : Nodes} {source : VerifiedSource}
    {fetched : List (String × String)} (hopens : v.Opens w ns)
    (h : (checkBytecode ns v.options.color v.config.bytecode address source fetched).run w st =
      (.ok verdict, last)) :
    ∃ listing c artifacts xs expected remote actual,
      Exchanges w st.requests (listing :: xs ++ [remote]) last.requests ∧
      last.compilations = st.compilations ++ [c] ∧ c.input = source.input.withTexts fetched ∧
      Compiles w source listing c artifacts ∧ v.Expects address artifacts xs expected ∧
      Rpc.GivesCode ns.remote.url address remote actual ∧
      Bytecode.compare artifacts.immutables actual expected = .ok verdict := by
  obtain ⟨artifacts,compiled,hcompiled,h⟩ := run_bind_eq_ok_iff.mp h
  obtain ⟨expected,ready,hexpected,h⟩ := run_bind_eq_ok_iff.mp h
  obtain ⟨answer,answered,hcode,h⟩ := run_bind_eq_ok_iff.mp h
  obtain ⟨actual,_,hactual,h⟩ := run_bind_eq_ok_iff.mp h
  obtain ⟨rfl,rfl⟩ := require_eq_ok_iff.mp hactual
  obtain ⟨comparison,compared,hevaluate,h⟩ := run_bind_eq_ok_iff.mp h
  obtain ⟨_,shown,hshow,h⟩ := run_bind_eq_ok_iff.mp h
  obtain ⟨hresult,rfl⟩ := run_ofExcept_eq_iff.mp h
  obtain ⟨listing,c,hlisting,hcompilations,hinput,hcompiles⟩ := compiles_of_compiled hcompiled
  obtain ⟨xs,hxs,hexpects⟩ := expects_of_expectedCode hopens hexpected
  obtain ⟨remote,hremote,hgives⟩ := Connection.sent_of_code hcode
  -- the logs behind the last exchange
  have hready := (asks_expectedCode _ _ _ _).of_run hexpected
  have hcompared := ((asks_evaluate _ _ _ _).mapFailure _).of_run hevaluate
  have hrest := hcompared.trans ((asks_showDiff _ _).of_run hshow)
  refine ⟨listing,c,artifacts,xs,expected,remote,actual,?_,?_,hinput,hcompiles,hexpects,hgives,?_⟩
  · exact (hlisting.append hxs).append (hremote.exchanges.append (.nil hrest.requests))
  · rw [hrest.compilations, hremote.compilations, hready.compilations, hcompilations]
  · have hevaluated := evaluate_of_run (run_mapFailure_eq_ok_iff.mp hevaluate)
    exact Result.bind_eq_ok_iff.mpr ⟨comparison,hevaluated,Result.mapError_eq_ok_iff.mp hresult⟩

lemma check_of_bytecodeOutcome {ns : Nodes} {source : VerifiedSource} {review : Review}
    (h : (v.bytecodeOutcome (some ns) address source review.fetched).run w st =
      (.ok (.verified verdict), last)) :
    (v.check address ns source review).run w st = (.ok verdict, last) := by
  rw [run_bytecodeOutcome_some] at h
  generalize (v.check address ns source review).run w st = result at h ⊢
  obtain ⟨e | reached,checked⟩ := result
  · dsimp only at h
    split at h <;> cases h
  · cases h
    rfl

/-- A verdict on a contract is supported by what the logs say between its beginning and its end. -/
theorem exists_supports (hopens : ∀ ns, nodes = some ns → v.Opens w ns)
    (h : (v.verify nodes address name).run w st = (.ok outcome, last))
    (hverdict : outcome.bytecode = .verified verdict) :
    ∃ e : Evidence, e.Supports v w outcome verdict st last := by
  rw [verify_eq] at h
  obtain ⟨source,fetched,hsource,h⟩ := run_bind_eq_ok_iff.mp h
  obtain ⟨_,_,hensure,h⟩ := run_bind_eq_ok_iff.mp h
  obtain ⟨hname,rfl⟩ := run_ofExcept_eq_iff.mp hensure
  -- the user is asked or not; the logs are the same
  obtain ⟨asked,hasked,h⟩ : ∃ asked, fetched.Asks asked ∧
      (v.conclude nodes address name source).run w asked = (.ok outcome, last) := by
    split at h
    · obtain ⟨_,asked,hprint,h⟩ := run_bind_eq_ok_iff.mp h
      exact ⟨asked,(asks_print _).of_run hprint,h⟩
    · exact ⟨fetched,.refl _,h⟩
  obtain ⟨review,reviewed,hreview,h⟩ := run_bind_eq_ok_iff.mp h
  obtain ⟨bytecode,_,hbytecode,h⟩ := run_bind_eq_ok_iff.mp h
  cases h
  obtain rfl : bytecode = .verified verdict := hverdict
  obtain ⟨answer,hsent,hreports⟩ := Explorer.sent_of_fetch hsource
  obtain ⟨rows,mid,hrows,hmid,rfl⟩ := reviews_of_review hreview
  cases nodes with
  | none => cases hbytecode
  | some ns =>
    have hcheck := check_of_bytecodeOutcome hbytecode
    have hreviewed := (v.asks_review _ _).of_run hreview
    obtain ⟨listing,c,artifacts,xs,expected,remote,actual,hlog,hcompilations,hinput,hcompiles,
      hexpects,hgives,hcompare⟩ := compare_of_checkBytecode (hopens ns rfl) hcheck
    refine ⟨⟨source,rows,c,artifacts,expected,actual,answer,listing,xs,remote⟩,hreports,
      VerifiedSource.ensureName_eq_ok_iff.mp hname,⟨asked,mid,?_,hrows,?_⟩,rfl,?_,hinput,hcompiles,
      hexpects,⟨_,(hopens ns rfl).remote,hgives⟩,hcompare⟩
    · exact hsent.exchanges.append (.nil hasked.requests)
    · exact hlog.of_prefix hmid.requests
    · rw [hcompilations, hreviewed.compilations, hasked.compilations, hsent.compilations]

/-! ## Runs -/

/-- What a run says of its contracts is supported, part by part: each contract has its own part of
the logs, behind those of the contracts before it. -/
inductive Backed (v : Verifier) (w : World) : State → List ContractOutcome → State → Prop
  | nil (st : State) : Backed v w st [] st
  | cons {st next last : State} {outcome : ContractOutcome} {rest : List ContractOutcome}
    (grows : st.Grows next)
    (supported : ∀ verdict, outcome.bytecode = .verified verdict →
      ∃ e : Evidence, e.Supports v w outcome verdict st next)
    (tail : Backed v w next rest last) : Backed v w st (outcome :: rest) last

variable {v : Verifier} {nodes : Option Nodes}

theorem backed_of_verifyAll (hopens : ∀ ns, nodes = some ns → v.Opens w ns)
    {contracts : List (String × String)} {outcomes : List ContractOutcome}
    (h : (v.verifyAll nodes contracts).run w st = (.ok outcomes, last)) :
    Backed v w st outcomes last := by
  induction contracts generalizing st outcomes with
  | nil =>
    cases h
    exact .nil _
  | cons contract rest ih =>
    obtain ⟨address,name⟩ := contract
    obtain ⟨outcome,next,hhead,h⟩ := run_bind_eq_ok_iff.mp h
    obtain ⟨later,_,htail,h⟩ := run_bind_eq_ok_iff.mp h
    cases h
    exact .cons ((v.grows_verify _ _ _).of_run hhead)
      (fun _ hverdict => exists_supports hopens hhead hverdict) (ih htail)

/-- Every contract has its own part, and so have those around it. -/
theorem Backed.of_append {earlier later : List ContractOutcome}
    (h : Backed v w st (earlier ++ later) last) :
    ∃ mid, Backed v w st earlier mid ∧ Backed v w mid later last := by
  induction earlier generalizing st with
  | nil => exact ⟨st,.nil st,h⟩
  | cons outcome rest ih =>
    cases h with
    | cons grows supported tail =>
      obtain ⟨mid,hrest,hlater⟩ := ih tail
      exact ⟨mid,.cons grows supported hrest,hlater⟩

lemma isRemote_of_remoteUrl {url : String} (h : v.remoteUrl.run w st = (.ok url, last)) :
    st = last ∧ v.IsRemote w url := by
  unfold remoteUrl at h
  cases hgiven : v.options.remoteUrl with
  | some given =>
    rw [hgiven] at h
    cases h
    exact ⟨rfl,.inl hgiven⟩
  | none =>
    rw [hgiven] at h
    obtain ⟨setting,_,hsetting,h⟩ := run_bind_eq_ok_iff.mp h
    obtain ⟨hurl,rfl⟩ := require_eq_ok_iff.mp h
    cases hsetting
    exact ⟨rfl,.inr ⟨hgiven,Option.eq_some_of_filter_eq_some hurl⟩⟩

theorem asks_checkChain (v : Verifier) (remote : Connection) :
    (v.checkChain remote).Within State.Asks := by
  unfold checkChain
  split
  · exact within_pure _
  · apply remote.asks_chainId.bind
    intro actual
    split
    · exact within_throw _
    · exact within_pure _

theorem opens_of_prepare {ready : State} (h : v.prepare.run w st = (.ok nodes, ready)) :
    st.Asks ready ∧ ∀ ns, nodes = some ns → v.Opens w ns := by
  unfold prepare at h
  cases hsettings : v.bytecodeSettings with
  | none =>
    rw [hsettings] at h
    cases h
    exact ⟨.refl _,fun _ hns => nomatch hns⟩
  | some settings =>
    rw [hsettings] at h
    obtain ⟨ns,_,hopen,h⟩ := run_bind_eq_ok_iff.mp h
    cases h
    obtain ⟨url,known,hurl,hconnection⟩ := run_bind_eq_ok_iff.mp hopen
    obtain ⟨rfl,hremote⟩ := isRemote_of_remoteUrl hurl
    obtain ⟨remote,connected,hconnect,hchain⟩ := run_bind_eq_ok_iff.mp hconnection
    obtain ⟨_,checked,hcheck,hnode⟩ := run_bind_eq_ok_iff.mp hchain
    have hasks := ((Rpc.asks_connect url).of_run hconnect).trans
      ((v.asks_checkChain remote).of_run hcheck)
    cases hconnect
    cases hconfig : settings.nodeConfig with
    | none =>
      rw [hconfig] at hnode
      cases hnode
      refine ⟨hasks,fun _ hns => ?_⟩
      cases hns
      exact ⟨hremote,settings,hsettings,by rw [hconfig]⟩
    | some config =>
      rw [hconfig] at hnode
      obtain ⟨_,started,hstart,hlocal⟩ := run_bind_eq_ok_iff.mp hnode
      obtain ⟨c,joined,hjoin,hlast⟩ := run_bind_eq_ok_iff.mp hlocal
      have hstarted := (LocalNode.asks_start _).of_run hstart
      have hjoined := (Rpc.asks_connect _).of_run hjoin
      cases hlast
      refine ⟨(hasks.trans hstarted).trans hjoined,fun _ hns => ?_⟩
      cases hns
      cases hjoin
      exact ⟨hremote,settings,hsettings,by rw [hconfig]; exact ⟨_,rfl,rfl⟩⟩

/-- Where a run succeeds and reports a contract as verified, the verdict is supported by what the
logs say between the beginning and the end of that contract, which lie between those of the
contracts before it and behind it. -/
theorem run_verified {summary : Summary} (h : v.run.run w st = (.ok summary, last))
    {earlier later : List ContractOutcome}
    (hcontracts : summary.contracts = earlier ++ outcome :: later)
    (hverdict : outcome.bytecode = .verified verdict) :
    ∃ ready before after, st.Asks ready ∧ Backed v w ready earlier before ∧
      (∃ e : Evidence, e.Supports v w outcome verdict before after) ∧
      Backed v w after later last := by
  obtain ⟨nodes,ready,hready,h⟩ := run_bind_eq_ok_iff.mp h
  obtain ⟨outcomes,_,hverify,h⟩ := run_bind_eq_ok_iff.mp h
  cases h
  obtain ⟨hasks,hopens⟩ := opens_of_prepare hready
  have hbacked := backed_of_verifyAll hopens hverify
  obtain rfl : outcomes = earlier ++ outcome :: later := hcontracts
  obtain ⟨before,hearlier,hrest⟩ := hbacked.of_append
  cases hrest with
  | @cons _ after _ _ _ _ supported tail =>
    exact ⟨ready,before,after,hasks,hearlier,supported verdict hverdict,tail⟩

/-- A verifier of one contract that deploys what it compiles. -/
def deploying : Verifier where
  config :=
    { Config.bare [("0x1", "A")] ⟨"https://github.com/owner/name", "", ""⟩ with
      bytecode := some ⟨some "node.js", [], []⟩ }
  options := { remoteUrl := some "http://remote/" }
  explorer := ⟨"blockscout.com", none, none⟩
  client := ⟨none⟩

/-- The results of a node's calls; the code of every account is one byte. -/
def resultOfCall : Option String → Json
  | some "eth_accounts" => .ofStrings ["0xa"]
  | some "eth_sendTransaction" => .str "0xb"
  | some "eth_getTransactionReceipt" =>
    .obj [("status", .str "0x1"), ("contractAddress", .str "0xc")]
  | _ => .str "0x00"

/-- What is found at a URL: the source of a contract, the list of builds, and one program. -/
def foundAt (url : String) : Option Blob :=
  if url = "https://blockscout.com/api/v2/smart-contracts/0x1" then
    some (Json.obj [("name", .str "A"), ("compiler_version", .str "v0.8.9"),
      ("source_code", .str "")]).compact
  else if url = Compiler.downloadUrl "list.json" then
    some (Json.obj [("builds", .arr [.obj [("path", .str "solc"), ("version", .str "0.8.9"),
      ("longVersion", .str "0.8.9"), ("keccak256", .str Compiler.sample.keccak256)]])]).compact
  else if url = Compiler.downloadUrl "solc" then some Compiler.sampleProgram
  else none

/-- What the compiler gives for every input. -/
def oneByteContract : Json :=
  let code := Json.obj [("object", .str "00")]
  .obj [("contracts", .obj [("A.sol", .obj [("A",
    .obj [("evm", .obj [("bytecode", code), ("deployedBytecode", code)])])])])]

/-- A world in which that contract is what it should be. -/
def matching : World where
  reply _ request :=
    match request.body with
    | some call => some ⟨200, (Json.obj [("result", resultOfCall (call.string? "method"))]).compact⟩
    | none =>
      match foundAt request.url with
      | some found => some ⟨200, found⟩
      | none => some ⟨404, ""⟩
  environment _ := none
  compiler _ _ := ⟨0, oneByteContract.compact, ""⟩
  node := .listens
  isBusy _ _ := false
  directoryLimit := 0
  startTime := 0

theorem bytecode_deploying :
    (deploying.run.run matching (Compiler.standing "node.js" "")).1.toOption.map
      (fun summary => summary.contracts.map ContractOutcome.bytecode) =
        some [.verified .fullMatch] := by
  decide +kernel

/-- The verdict on a contract that was deployed is supported. -/
theorem run_verified_deployed : ∃ summary last outcome before after, ∃ e : Evidence,
    deploying.run.run matching (Compiler.standing "node.js" "") = (.ok summary, last) ∧
    summary.contracts = [outcome] ∧ outcome.bytecode = .verified .fullMatch ∧
    e.Supports deploying matching outcome .fullMatch before after := by
  obtain ⟨summary,last,hrun,hbytecode⟩ := exists_run_eq_ok bytecode_deploying
  obtain ⟨outcome,hcontracts,hverdict⟩ := List.map_eq_singleton_iff.mp hbytecode
  have happend : summary.contracts = [] ++ outcome :: [] := hcontracts
  obtain ⟨_,before,after,-,-,⟨e,hsupports⟩,-⟩ := run_verified hrun happend hverdict
  exact ⟨summary,last,outcome,before,after,e,hrun,hcontracts,hverdict,hsupports⟩

end Verifier

end DeployCheck
