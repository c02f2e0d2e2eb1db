import DeployCheck.Proofs.Verification.Settings
import DeployCheck.Proofs.Verification.SideBySide
import Mathlib.Data.List.Forall2

/-! Verifications with different tokens side by side. They send twins: the same requests, but for
the authorization of those to the contents interface. Where answers do not depend on headers, no
step of a verification notices the difference. -/
namespace DeployCheck

open DeployCheck.Action DeployCheck.Session

/-! ## Twins -/

/-- The token that a value of its variable gives. An empty value gives none. -/
def tokenOf (value : Option String) : Option String := value.filter (· != "")

/-- A world with another value of the token's variable. -/
def World.withToken (w : World) (value : Option String) : World :=
  { w with environment := fun name =>
      if name = Verifier.tokenVariable then value else w.environment name }

namespace Request

/-- A request without its headers. -/
def bare (r : Request) : Request := { r with headers := [] }

/-- A request without its authorization. -/
def unauthorized (r : Request) : Request :=
  { r with headers := r.headers.filter fun h => h.1 != "authorization" }

/-- A request that never carries a token. It asks the explorer for a source, calls a node or gets
a file from the site of the compilers. -/
inductive Plain (explorer : Option Explorer) : Request → Prop
  | source {x : Explorer} (asked : explorer = some x) (address : String) :
    Plain explorer (.get (x.sourceUrl address))
  | call (url : String) (body : Json) : Plain explorer ⟨"POST", url, [], some body⟩
  | compilers (name : String) : Plain explorer (.get (Compiler.downloadUrl name))

/-- For two values of the token's variable, requests are twins if they are the same and none that
carries a token, or if both read from the contents interface, each with its own token, and are the
same otherwise. -/
inductive Twins (explorer : Option Explorer) (v v' : Option String) : Request → Request → Prop
  | plain {r : Request} (plain : Plain explorer r) : Twins explorer v v' r r
  | contents {r s : Request} (left : Repository.ContentsRequest (tokenOf v) r)
    (right : Repository.ContentsRequest (tokenOf v') s) (same : r.unauthorized = s.unauthorized) :
    Twins explorer v v' r s

variable {explorer : Option Explorer} {v v' : Option String}

lemma Twins.bare_eq {r s : Request} (h : Twins explorer v v' r s) : r.bare = s.bare := by
  cases h with
  | plain => rfl
  | contents _ _ same =>
    change r.unauthorized.bare = s.unauthorized.bare
    rw [same]

lemma Twins.map_bare_eq {sent sent' : List Request}
    (h : List.Forall₂ (Twins explorer v v') sent sent') : sent.map bare = sent'.map bare := by
  induction h with
  | nil => rfl
  | cons hhead _ ih => rw [List.map_cons, List.map_cons, hhead.bare_eq, ih]

end Request

/-- Without its authorization a client's request is the same for all tokens. -/
lemma Repository.Client.unauthorized_request (c : Client) (url accept : String) :
    (c.request url accept).unauthorized =
      ⟨"GET", url, [("accept", accept), ("user-agent", "veriscan/0.1.0")], none⟩ := by
  obtain ⟨_ | token⟩ := c <;> rfl

/-- Answers do not depend on the headers of requests. -/
def World.IgnoresHeaders (w : World) : Prop :=
  ∀ sent r, w.reply sent r = w.reply (sent.map Request.bare) r.bare

/-- Two states that two runs have reached from a state. What they have sent are twins, and apart
from requests the states are the same. -/
structure State.Twinned (explorer : Option Explorer) (v v' : Option String) (st a b : State) :
    Prop where
  requests : ∃ sent sent', a.requests = st.requests ++ sent ∧ b.requests = st.requests ++ sent' ∧
    List.Forall₂ (Request.Twins explorer v v') sent sent'
  rest : b = { a with requests := b.requests }

namespace State.Twinned

variable {explorer : Option Explorer} {v v' : Option String} {st a b : State}

@[refl] lemma refl (st : State) : State.Twinned explorer v v' st st st :=
  ⟨⟨[],[],by simp,by simp,.nil⟩,rfl⟩

lemma map_bare_eq (h : State.Twinned explorer v v' st a b) :
    a.requests.map Request.bare = b.requests.map Request.bare := by
  obtain ⟨sent,sent',ha,hb,htwins⟩ := h.requests
  rw [ha, hb, List.map_append, List.map_append, Request.Twins.map_bare_eq htwins]

/-- Twins can be noted side by side. -/
lemma note (h : State.Twinned explorer v v' st a b) {r s : Request}
    (hrs : r.Twins explorer v v' s) :
    State.Twinned explorer v v' st { a with requests := a.requests ++ [r] }
      { b with requests := b.requests ++ [s] } := by
  obtain ⟨sent,sent',ha,hb,htwins⟩ := h.requests
  refine ⟨⟨sent ++ [r],sent' ++ [s],?_,?_,List.rel_append htwins (.cons hrs .nil)⟩,?_⟩
  · rw [ha, List.append_assoc]
  · rw [hb, List.append_assoc]
  · rw [h.rest]

/-- Changes that neither read nor change requests lead to twinned states. -/
lemma change (h : State.Twinned explorer v v' st a b) {f : State → State}
    (hrequests : ∀ s, (f s).requests = s.requests)
    (hf : ∀ s rs, f { s with requests := rs } = { f s with requests := rs }) :
    State.Twinned explorer v v' st (f a) (f b) := by
  refine ⟨by simpa [hrequests] using h.requests,?_⟩
  conv_lhs => rw [h.rest, hf]
  rw [hrequests]

lemma files_eq (h : State.Twinned explorer v v' st a b) : a.files = b.files := by rw [h.rest]

lemma calls_eq (h : State.Twinned explorer v v' st a b) : a.calls = b.calls := by rw [h.rest]

end State.Twinned

/-! ## Blind steps -/

section Steps

variable {ε α β : Type} {explorer : Option Explorer} {w : World} {v v' : Option String} {st : State}

namespace Action

/-- An action keeps step with itself whatever the token is. -/
abbrev Blind (explorer : Option Explorer) (w : World) (v v' : Option String) (st : State)
    (x : Action ε α) : Prop :=
  KeepStep (w.withToken v) (w.withToken v') (State.Twinned explorer v v' st) x x

lemma blind_modify {f : State → State} (hrequests : ∀ s, (f s).requests = s.requests)
    (hf : ∀ s rs, f { s with requests := rs } = { f s with requests := rs }) :
    Blind explorer w v v' st (modify f : Action ε Unit) :=
  keepStep_modify fun _ _ h => h.change hrequests hf

lemma blind_files : Blind explorer w v v' st (files : Action ε Files) :=
  fun _ _ h => ⟨congrArg Except.ok h.files_eq,h⟩

lemma blind_print (line : String) : Blind explorer w v v' st (print line : Action ε Unit) :=
  blind_modify (fun _ => rfl) fun _ _ => rfl

lemma blind_record (event : Event) : Blind explorer w v v' st (record event : Action ε Unit) :=
  blind_modify (fun _ => rfl) fun _ _ => rfl

end Action

namespace Session

lemma blind_setFiles (files : Option Files) : Blind explorer w v v' st (setFiles files) := by
  cases files with
  | none => exact keepStep_throw _
  | some fs => exact blind_modify (fun _ => rfl) fun _ _ => rfl

lemma blind_contentsOf (path : String) : Blind explorer w v v' st (contentsOf path) :=
  blind_files.bind fun _ => keepStep_require _ _

lemma blind_makeDirectories (path : String) : Blind explorer w v v' st (makeDirectories path) :=
  blind_files.bind fun _ => blind_setFiles _

lemma blind_writeFile (path : String) (contents : Blob) (executable : Bool) :
    Blind explorer w v v' st (writeFile path contents executable) :=
  blind_files.bind fun _ => blind_setFiles _

/-- Twins to one address are answered alike. -/
lemma keepStep_twins (hw : w.IgnoresHeaders) {r s : Request} (hurl : r.url = s.url)
    (hrs : r.Twins explorer v v' s) :
    KeepStep (w.withToken v) (w.withToken v') (State.Twinned explorer v v' st) (send r)
      (send s) := by
  refine keepStep_send hurl (fun _ a b h => ?_) fun _ a b h => h.note hrs
  change w.reply a.requests r = w.reply b.requests s
  rw [hw, h.map_bare_eq, hrs.bare_eq, ← hw]

variable (hw : w.IgnoresHeaders)

include hw

lemma blind_sendChecked {r : Request} (hr : r.Plain explorer) :
    Blind explorer w v v' st (sendChecked r) :=
  keepStep_sendChecked (keepStep_twins hw rfl (.plain hr))

end Session

/-! ## Nodes -/

lemma Rpc.blind_connect (url : String) : Blind explorer w v v' st (Rpc.connect url) := by
  intro a b h
  constructor
  · change Except.ok (Connection.mk url a.calls.length) = .ok ⟨url, b.calls.length⟩
    rw [h.calls_eq]
  · exact h.change (f := fun s => { s with calls := s.calls ++ [0] }) (fun _ => rfl) fun _ _ => rfl

/-- A node is started without a request. -/
theorem LocalNode.blind_start (n : LocalNode) : Blind explorer w v v' st n.start := by
  unfold start
  apply (keepStep_ofExcept _).bind
  intro address
  apply blind_files.bind
  intro fs
  apply (keepStep_throw_bind _ _ _).ite
  apply KeepStep.read
  apply (keepStep_throw_bind _ _ _).ite
  apply (keepStep_ofExcept _).bind
  intro _
  apply KeepStep.bind
  · exact blind_modify (fun _ => rfl) fun _ _ => rfl
  intro _
  rw [show (w.withToken v).node = w.node from rfl, show (w.withToken v').node = w.node from rfl]
  cases w.node with
  | exits ending => exact (keepStep_require _ _).bind fun _ => keepStep_throw _
  | hangs => exact keepStep_throw _
  | listens => exact keepStep_pure _

namespace Connection

variable (c : Connection)

lemma blind_nextId : Blind explorer w v v' st c.nextId := by
  intro a b h
  constructor
  · change Except.ok (a.calls.getD c.slot 0 + 1) = .ok (b.calls.getD c.slot 0 + 1)
    rw [h.calls_eq]
  · exact h.change
      (f := fun s => { s with calls := s.calls.set c.slot (s.calls.getD c.slot 0 + 1) })
      (fun _ => rfl) fun _ _ => rfl

variable (hw : w.IgnoresHeaders)

include hw

lemma blind_call (method : String) (params : Json) :
    Blind explorer w v v' st (c.call method params) := by
  apply c.blind_nextId.bind
  intro id
  apply (blind_sendChecked hw (.call _ _)).bind
  intro reply
  exact (keepStep_parseBody reply).bind fun _ => keepStep_ofExcept _

lemma blind_code (address : String) : Blind explorer w v v' st (c.code address) := by
  apply (c.blind_call hw _ _).bind
  intro result
  cases result with
  | str text => exact keepStep_pure _
  | _ => exact keepStep_throw _

lemma blind_chainId : Blind explorer w v v' st c.chainId :=
  (c.blind_call hw _ _).bind fun _ => keepStep_require _ _

lemma blind_accounts : Blind explorer w v v' st c.accounts :=
  (c.blind_call hw _ _).bind fun _ => keepStep_require _ _

lemma blind_receipt (hash : String) (polls : Nat) :
    Blind explorer w v v' st (c.receipt hash polls) := by
  induction polls with
  | zero => exact keepStep_throw _
  | succ polls ih =>
    apply (c.blind_call hw _ _).bind
    intro receipt
    exact ih.ite (keepStep_pure _)

lemma blind_deploy (sender : String) (data : List UInt8) :
    Blind explorer w v v' st (c.deploy sender data) := by
  apply (c.blind_call hw _ _).bind
  intro result
  cases result with
  | str hash => exact (c.blind_receipt hw _ _).bind fun _ => keepStep_ofExcept _
  | _ => exact keepStep_throw _

end Connection

/-! ## Compilers -/

namespace Compiler

lemma blind_isCached (path : String) (build : Build) :
    Blind explorer w v v' st (isCached path build) := by
  apply blind_files.bind
  intro fs
  exact ((blind_contentsOf _).bind fun _ => keepStep_pure _).ite (keepStep_pure _)

/-- A compiler is run without a request. -/
lemma blind_runAt (path : String) (input : CompilerInput) :
    Blind explorer w v v' st (runAt path input) := by
  unfold runAt
  apply blind_files.bind
  intro fs
  apply (keepStep_throw_bind _ _ _).ite
  apply (blind_contentsOf _).bind
  intro program
  apply KeepStep.read
  -- the token is not in what a compiler meets
  change KeepStep _ _ _ (if (w.obstacle program input != some .unfit) = true then _ else _)
    (if (w.obstacle program input != some .unfit) = true then _ else _)
  apply KeepStep.ite
  · apply KeepStep.bind
    · exact blind_modify (fun _ => rfl) fun _ _ => rfl
    · intro _
      exact keepStep_ofExcept _
  · exact keepStep_ofExcept _

lemma blind_compile (path : String) (input : CompilerInput) :
    Blind explorer w v v' st (compile path input) := by
  unfold compile
  apply (blind_runAt _ _).bind
  intro outcome
  apply (keepStep_throw_bind _ _ _).ite
  apply (keepStep_require _ _).bind
  intro output
  cases errorTexts output with
  | nil => exact keepStep_pure _
  | cons text texts => exact keepStep_throw _

variable (hw : w.IgnoresHeaders)

include hw

lemma blind_buildOf (version : String) : Blind explorer w v v' st (buildOf version) := by
  apply (blind_sendChecked hw (.compilers _)).bind
  intro reply
  exact (keepStep_require _ _).bind fun _ => keepStep_require _ _

lemma blind_ensure (directory : String) (build : Build) :
    Blind explorer w v v' st (ensure directory build) := by
  apply (blind_isCached _ _).bind
  intro cached
  cases cached with
  | true => exact keepStep_pure _
  | false =>
    apply (blind_sendChecked hw (.compilers _)).bind
    intro reply
    apply (keepStep_ofExcept _).bind
    intro _
    apply (blind_makeDirectories _).bind
    intro _
    exact (blind_writeFile _ _ _).bind fun _ => keepStep_pure _

end Compiler

/-! ## Bytecode -/

namespace Verification

lemma blind_evaluate (context : Nat) (refs : Bytecode.Immutables) (actual expected : String) :
    Blind explorer w v v' st (evaluate context refs actual expected) := by
  apply (keepStep_ofExcept _).bind
  intro c
  exact ((blind_record _).bind fun _ => keepStep_pure _).ite (keepStep_pure _)

lemma blind_showDiff (color : Bool) (c : Bytecode.Comparison) :
    Blind explorer w v v' st (showDiff color c) := by
  unfold showDiff
  cases c.diffText? true with
  | none => exact keepStep_pure _
  | some text =>
    cases color with
    | false => exact keepStep_pure _
    | true => exact blind_print _

variable (hw : w.IgnoresHeaders)

include hw

lemma blind_compiled (source : VerifiedSource) (fetched : List (String × String)) :
    Blind explorer w v v' st (compiled source fetched) := by
  apply (Compiler.blind_buildOf hw _).bind
  intro build
  apply (Compiler.blind_ensure hw _ _).bind
  intro path
  apply (Compiler.blind_compile _ _).bind
  intro output
  exact (keepStep_ofExcept _).bind fun _ => keepStep_ofExcept _

lemma blind_deployedCode (c : Connection) (data : List UInt8) :
    Blind explorer w v v' st (deployedCode c data) := by
  apply (c.blind_accounts hw).bind
  intro accounts
  cases accounts with
  | nil => exact keepStep_throw _
  | cons deployer others =>
    apply (c.blind_deploy hw _ _).bind
    intro address
    exact (c.blind_code hw _).bind fun _ => keepStep_require _ _

lemma blind_expectedCode (nodes : Nodes) (address : String) (artifacts : Compiler.Artifacts)
    (settings : Option BytecodeSettings) :
    Blind explorer w v v' st (expectedCode nodes address artifacts settings) := by
  unfold expectedCode
  cases nodes.localNode with
  | none => exact keepStep_pure _
  | some c => exact (keepStep_ofExcept _).bind fun _ => blind_deployedCode hw c _

theorem blind_checkBytecode (nodes : Nodes) (color : Bool) (settings : Option BytecodeSettings)
    (address : String) (source : VerifiedSource) (fetched : List (String × String)) :
    Blind explorer w v v' st (checkBytecode nodes color settings address source fetched) := by
  apply (blind_compiled hw _ _).bind
  intro artifacts
  apply (blind_expectedCode hw _ _ _ _).bind
  intro expected
  apply (nodes.remote.blind_code hw _).bind
  intro code
  apply (keepStep_require _ _).bind
  intro actual
  apply ((blind_evaluate _ _ _ _).mapFailure _).bind
  intro comparison
  exact (blind_showDiff _ _).bind fun _ => keepStep_ofExcept _

end Verification

end Steps

end DeployCheck
