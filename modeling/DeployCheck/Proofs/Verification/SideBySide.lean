import DeployCheck.Proofs.Repository.Addresses
import DeployCheck.Proofs.Review.Pages
import DeployCheck.Proofs.Stepping
import DeployCheck.Proofs.Verification.Growth

/-! Verifications side by side. Two verifications of the same contracts keep step up to the bytecode
step if their requests to the explorer and the contents interface do, and what they do to pages and
print. -/
namespace DeployCheck

open DeployCheck.Action DeployCheck.Session

variable {w u : World} {R : State → State → Prop}

theorem Explorer.keepStep_fetch {x : Explorer} {address : String}
    (h : KeepStep w u R (send (.get (x.sourceUrl address))) (send (.get (x.sourceUrl address)))) :
    KeepStep w u R (x.fetch address) (x.fetch address) := by
  apply (keepStep_sendChecked h).bind
  intro reply
  exact (keepStep_parseBody reply).bind fun _ => keepStep_ofExcept _

/-! ## Clients -/

namespace Repository.Client

/-- What two clients send to the contents interface keeps step. -/
def SendAlike (w u : World) (R : State → State → Prop) (c d : Client) : Prop :=
  ∀ repository root path commit accept,
    KeepStep w u R (send (c.request (contentsUrl repository root path commit) accept))
      (send (d.request (contentsUrl repository root path commit) accept))

variable {c d : Client} (h : SendAlike w u R c d) (r : RepositoryRef)

include h

lemma keepStep_get (repository root path commit accept : String) :
    KeepStep w u R (c.get (contentsUrl repository root path commit) accept)
      (d.get (contentsUrl repository root path commit) accept) := by
  apply (h repository root path commit accept).bind
  intro reply
  apply (keepStep_pure _).ite
  exact ((keepStep_throw _).map _).ite (keepStep_pure _)

lemma keepStep_fileAt (directory path : String) :
    KeepStep w u R (c.fileAt r directory path) (d.fileAt r directory path) := by
  apply (keepStep_ofExcept _).bind
  intro repository
  exact (keepStep_get h _ _ _ _ _).bind fun _ => keepStep_pure _

lemma keepStep_entries (directory : String) :
    KeepStep w u R (c.entries r directory) (d.entries r directory) := by
  apply (keepStep_ofExcept _).bind
  intro repository
  apply (keepStep_get h _ _ _ _ _).bind
  intro reply
  cases reply with
  | none => exact keepStep_pure _
  | some reply => exact (keepStep_parseBody reply).bind fun _ => keepStep_pure _

lemma keepStep_walk (path : String) (limit : Nat) (walk : Walk) :
    KeepStep w u R (Repository.walk (c.tree r) path limit walk)
      (Repository.walk (d.tree r) path limit walk) := by
  induction limit using Nat.strongRecOn generalizing walk with
  | ind limit ih =>
    unfold Repository.walk
    cases walk.next? with
    | none =>
      cases walk.candidate with
      | none => exact keepStep_pure _
      | some file => exact (keepStep_fileAt h r _ _).bind fun _ => keepStep_pure _
    | some next =>
      apply (keepStep_fileAt h r _ _).bind
      intro content
      cases content with
      | some content => exact keepStep_pure _
      | none =>
        apply (keepStep_entries h r _).bind
        intro entries
        cases limit with
        | zero => exact keepStep_pure _
        | succ limit => exact ih limit limit.lt_succ_self _

/-- Searches keep step with the requests that they send, if both worlds let them go equally far. -/
theorem keepStep_fetch (hlimit : w.directoryLimit = u.directoryLimit) (recursive : Bool)
    (path : String) : KeepStep w u R (c.fetch recursive r path) (d.fetch recursive r path) := by
  unfold fetch
  cases recursive with
  | false => exact keepStep_fileAt h r _ _
  | true =>
    apply KeepStep.read
    rw [hlimit]
    apply (keepStep_walk h r _ _ _).bind
    intro found
    cases found with
    | text content => exact keepStep_pure _
    | absent => exact keepStep_pure _
    | unfinished => exact keepStep_throw _

end Repository.Client

/-! ## Reviews -/

namespace Review

/-- What is done to the pages of a contract keeps step. -/
structure WriteAlike (w u : World) (R : State → State → Prop) (directory address : String) :
    Prop where
  differ : w.differ = u.differ
  folder : KeepStep w u R (makeDirectories (pageDirectory directory address))
    (makeDirectories (pageDirectory directory address))
  page : ∀ filename page, '/' ∉ filename.toList →
    KeepStep w u R (writeFile (pagePath directory address filename) page false)
      (writeFile (pagePath directory address filename) page false)

variable {directory address : String} (h : WriteAlike w u R directory address)

include h

lemma keepStep_report (index : Nat) (path content : String) (copy : Option String) :
    KeepStep w u R (report directory address index path content copy)
      (report directory address index path content copy) := by
  apply KeepStep.read
  rw [h.differ]
  apply KeepStep.bind
  · apply h.folder.bind
    intro _
    exact (h.page _ _ (Text.not_mem_afterLast _ _)).bind fun _ => keepStep_pure _
  · intro reportPath
    exact keepStep_pure _

theorem keepStep_extend {f g : Fetch} (hfetch : ∀ r path, KeepStep w u R (f r path) (g r path))
    (config : Config) (review : Review) (sources : List (String × String)) :
    KeepStep w u R (extend f config directory address review sources)
      (extend g config directory address review sources) := by
  induction sources generalizing review with
  | nil => exact keepStep_pure _
  | cons source rest ih =>
    obtain ⟨path,content⟩ := source
    apply (hfetch _ _).bind
    intro copy
    exact (keepStep_report h _ _ _ _).bind fun _ => ih _

end Review

/-! ## Contracts -/

namespace Verifier

open Verification

/-- The same verification by another client and with other nodes. -/
def elsewhere (v : Verifier) (client : Repository.Client) (localUrl : String)
    (remoteUrl : Option String) : Verifier :=
  { v with client, options := { v.options with localUrl, remoteUrl } }

/-- What the verifications of some contracts do before the bytecode step keeps step. -/
structure ReviewAlike (w u : World) (R : State → State → Prop) (v : Verifier)
    (client : Repository.Client) : Prop where
  limit : w.directoryLimit = u.directoryLimit
  source : ∀ c ∈ v.config.contracts, KeepStep w u R (send (.get (v.explorer.sourceUrl c.1)))
    (send (.get (v.explorer.sourceUrl c.1)))
  contents : v.client.SendAlike w u R client
  pages : ∀ c ∈ v.config.contracts, Review.WriteAlike w u R v.options.directory c.1
  print : ∀ line, KeepStep w u R (Action.print line : Session Unit) (Action.print line)

/-- What the verifications of contracts do in the bytecode step keeps step. -/
def CheckAlike (w u : World) (R : State → State → Prop) (v v' : Verifier) (nodes : Option Nodes) :
    Prop :=
  ∀ address source fetched, KeepStep w u R (v.bytecodeOutcome nodes address source fetched)
    (v'.bytecodeOutcome nodes address source fetched)

variable {v : Verifier} {client : Repository.Client} (h : ReviewAlike w u R v client)
  {localUrl : String} {remoteUrl : Option String} {nodes : Option Nodes}

include h

lemma keepStep_review {address name : String} (hc : (address, name) ∈ v.config.contracts)
    (source : VerifiedSource) : KeepStep w u R (v.review address source)
      ((v.elsewhere client localUrl remoteUrl).review address source) := by
  have hfetch := fun r path =>
    Repository.Client.keepStep_fetch h.contents r h.limit v.options.recursive path
  apply (Review.keepStep_extend (h.pages _ hc) hfetch _ _ _).bind
  intro review
  exact ((h.print _).bind fun _ => keepStep_pure _).ite (keepStep_pure _)

theorem keepStep_verify (hcheck : CheckAlike w u R v (v.elsewhere client localUrl remoteUrl) nodes)
    {address name : String} (hc : (address, name) ∈ v.config.contracts) :
    KeepStep w u R (v.verify nodes address name)
      ((v.elsewhere client localUrl remoteUrl).verify nodes address name) := by
  rw [verify_eq, verify_eq]
  apply (Explorer.keepStep_fetch (h.source _ hc)).bind
  intro source
  have hrest : KeepStep w u R (v.conclude nodes address name source)
      ((v.elsewhere client localUrl remoteUrl).conclude nodes address name source) := by
    apply (keepStep_review h hc source).bind
    intro review
    exact (hcheck _ _ _).bind fun _ => keepStep_pure _
  apply (keepStep_ofExcept _).bind
  intro _
  exact ((h.print _).bind fun _ => hrest).ite hrest

theorem keepStep_verifyAll
    (hcheck : CheckAlike w u R v (v.elsewhere client localUrl remoteUrl) nodes)
    {contracts : List (String × String)} (hcontracts : contracts ⊆ v.config.contracts) :
    KeepStep w u R (v.verifyAll nodes contracts)
      ((v.elsewhere client localUrl remoteUrl).verifyAll nodes contracts) := by
  induction contracts with
  | nil => exact keepStep_pure _
  | cons c rest ih =>
    obtain ⟨address,name⟩ := c
    obtain ⟨hc,hrest⟩ := List.cons_subset.mp hcontracts
    apply (keepStep_verify h hcheck hc).bind
    intro outcome
    exact (ih hrest).bind fun _ => keepStep_pure _

/-- Runs keep step if their set-ups do, and all that they do for a contract. -/
theorem keepStep_run
    (hprepare : KeepStep w u R v.prepare (v.elsewhere client localUrl remoteUrl).prepare)
    (hcheck : ∀ nodes, CheckAlike w u R v (v.elsewhere client localUrl remoteUrl) nodes) :
    KeepStep w u R v.run (v.elsewhere client localUrl remoteUrl).run := by
  apply hprepare.bind
  intro nodes
  exact (keepStep_verifyAll h (hcheck nodes) (List.Subset.refl _)).bind fun _ => keepStep_pure _

end Verifier

end DeployCheck
