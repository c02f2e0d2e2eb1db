import DeployCheck.Proofs.Files.Places
import DeployCheck.Proofs.Verification.Settings
import DeployCheck.Proofs.Verification.SideBySide

/-! Verifications without the bytecode step. Neither compilers nor nodes nor what is known of them
has a part in such a verification: it asks the explorer and the contents interface only. -/
namespace DeployCheck

open DeployCheck.Action DeployCheck.Session

/-! ## What has no part -/

/-- A text stands for the place where compilers are kept or for one below it. -/
def Verification.InCache (text : String) : Prop :=
  text = compilerDirectory ∨ ∃ rest, text = compilerDirectory ++ "/" ++ rest

/-- A text stands for a place on the way to the pages of a contract. -/
def Review.OnWay (directory address text : String) : Prop := ∃ l : Location, l.text = text ∧
  (Path.Passes (pageDirectory directory address) l ∨
    ∃ filename, '/' ∉ filename.toList ∧ Path.Passes (pagePath directory address filename) l)

/-- A text stands for a place of the compilers, and no page of the configuration is there or
below. -/
def Config.Spare (config : Config) (directory text : String) : Prop :=
  Verification.InCache text ∧ ∀ c ∈ config.contracts, ¬Review.OnWay directory c.1 text

/-- A page directory that is relative lies beside the place of the compilers, all of which is then
spare. -/
theorem Config.spare_iff_of_relative {config : Config} {directory text : String}
    (h : ∀ c ∈ config.contracts, Path.base (Review.pageDirectory directory c.1) = []) :
    config.Spare directory text ↔ Verification.InCache text := by
  refine ⟨And.left,fun hcache => ⟨hcache,?_⟩⟩
  obtain ⟨rest,rfl⟩ : ∃ rest, text = "/" ++ rest := by
    rcases hcache with rfl | ⟨rest,rfl⟩
    · exact ⟨"tmp/solc_builds",by decide⟩
    · have hlead : Verification.compilerDirectory ++ "/" = "/" ++ "tmp/solc_builds/" := by decide
      exact ⟨"tmp/solc_builds/" ++ rest,by rw [hlead, String.append_assoc]⟩
  rintro c hc ⟨l,hl,hpasses | ⟨filename,hname,hpasses⟩⟩
  · exact hpasses.text_ne (h c hc) rest hl
  · refine hpasses.text_ne ?_ rest hl
    rw [Review.pagePath, Path.base_join (Review.isName_page hname).slashless, h c hc]

/-- The variables that name nodes. -/
def nodeVariables : List String := ["REMOTE_RPC_URL", "LOCAL_RPC_URL"]

/-- The explorer of a configuration that is found in a world and the contents interface are the
hosts that a verification relies on without its bytecode step. -/
def Config.ReliesOn (config : Config) (w : World) (host : Url.Host) : Prop :=
  host = Repository.contentsHost ∨ ∃ x, config.explorerIn w = some x ∧
    ∃ c ∈ config.contracts, (Request.get (x.sourceUrl c.1)).host? = some host

/-- Two worlds differ for a configuration in compilers and nodes at most, in the variables that name
nodes, and in what hosts answer that are neither its explorer nor the contents interface. -/
structure Config.AlikeIn (config : Config) (w u : World) : Prop where
  environment : ∀ name, name ∉ nodeVariables → w.environment name = u.environment name
  directoryLimit : w.directoryLimit = u.directoryLimit
  differ : w.differ = u.differ
  reply : ∀ sent r host, r.host? = some host → config.ReliesOn w host →
    w.reply sent r = u.reply sent r

/-- States agree on requests, on what is shown and on all files but some spare ones. -/
structure State.AgreeOff (spare : String → Prop) (st su : State) : Prop where
  requests : st.requests = su.requests
  printed : st.printed = su.printed
  events : st.events = su.events
  files : st.files.AgreeOff spare su.files

/-- Only requests of one kind are sent; nothing is compiled, and no node is started or called. -/
structure State.OnlySends (P : Request → Prop) (st last : State) : Prop where
  requests : ∃ sent, last.requests = st.requests ++ sent ∧ ∀ r ∈ sent, P r
  calls : last.calls = st.calls
  compilations : last.compilations = st.compilations
  nodes : last.nodes = st.nodes

/-- A request asks the explorer for a contract of the configuration or reads from the contents
interface. -/
inductive Config.Asks (config : Config) (w : World) : Request → Prop
  | source {x : Explorer} {c : String × String} (explorer : config.explorerIn w = some x)
    (contract : c ∈ config.contracts) : config.Asks w (.get (x.sourceUrl c.1))
  | contents {r : Request} {token : Option String} (read : Repository.ContentsRequest token r) :
    config.Asks w r

namespace State.OnlySends

variable {P : Request → Prop} {st last : State}

@[refl] theorem refl (st : State) : st.OnlySends P st := ⟨⟨[],by simp,by simp⟩,rfl,rfl,rfl⟩

lemma note (h : st.OnlySends P last) {r : Request} (hr : P r) :
    st.OnlySends P { last with requests := last.requests ++ [r] } := by
  obtain ⟨sent,hsent,hall⟩ := h.requests
  refine ⟨⟨sent ++ [r],?_,?_⟩,h.calls,h.compilations,h.nodes⟩
  · rw [hsent, List.append_assoc]
  · exact List.forall_mem_append.mpr ⟨hall,List.forall_mem_singleton.mpr hr⟩

end State.OnlySends

/-! ## Steps -/

variable {config : Config} {directory : String} {w u : World} {st su : State}

/-- Two states that two runs have reached without the toolchain. -/
structure Config.Reached (config : Config) (directory : String) (w : World) (st su a b : State) :
    Prop where
  agree : a.AgreeOff (config.Spare directory) b
  left : st.OnlySends (config.Asks w) a
  right : su.OnlySends (config.Asks w) b

lemma Config.Asks.reliesOn {r : Request} {host : Url.Host} (h : config.Asks w r)
    (hhost : r.host? = some host) : config.ReliesOn w host := by
  cases h with
  | source explorer contract => exact .inr ⟨_,explorer,_,contract,hhost⟩
  | contents read => exact .inl (Option.some.inj (hhost.symm.trans read.host))

namespace Config.Reached

/-- Requests that may be sent are answered alike. -/
lemma keepStep_send (hworlds : config.AlikeIn w u) {r : Request} (hr : config.Asks w r) :
    KeepStep w u (config.Reached directory w st su) (send r) (send r) := by
  apply Session.keepStep_send rfl
  · intro hnames a b h
    obtain ⟨host,hhost⟩ := exists_host_of_namesHost hnames
    rw [h.agree.requests]
    exact hworlds.reply _ _ host hhost (hr.reliesOn hhost)
  · intro _ a b h
    have hrequests : a.requests ++ [r] = b.requests ++ [r] := by rw [h.agree.requests]
    exact ⟨⟨hrequests,h.agree.printed,h.agree.events,h.agree.files⟩,h.left.note hr,
      h.right.note hr⟩

/-- Changes of files keep step if they keep agreement. -/
lemma keepStep_change {change : Files → Option Files}
    (hchange : ∀ fs gs, fs.AgreeOff (config.Spare directory) gs →
      Option.Rel (Files.AgreeOff (config.Spare directory)) (change fs) (change gs)) :
    KeepStep w u (config.Reached directory w st su)
      (do setFiles (change (← files)) : Session Unit)
      (do setFiles (change (← files)) : Session Unit) := by
  intro a b h
  simp only [run_bind, run_files]
  have hfiles := hchange _ _ h.agree.files
  generalize change a.files = one at hfiles ⊢
  generalize change b.files = two at hfiles ⊢
  cases hfiles with
  | none => exact ⟨rfl,h⟩
  | some hsame =>
    exact ⟨rfl,⟨h.agree.requests,h.agree.printed,h.agree.events,hsame⟩,
      ⟨h.left.requests,h.left.calls,h.left.compilations,h.left.nodes⟩,
      ⟨h.right.requests,h.right.calls,h.right.compilations,h.right.nodes⟩⟩

lemma keepStep_print (line : String) : KeepStep w u (config.Reached directory w st su)
    (Action.print line : Session Unit) (Action.print line) := by
  apply keepStep_modify
  intro a b h
  have hprinted : a.printed ++ [line] = b.printed ++ [line] := by rw [h.agree.printed]
  exact ⟨⟨h.agree.requests,hprinted,h.agree.events,h.agree.files⟩,
    ⟨h.left.requests,h.left.calls,h.left.compilations,h.left.nodes⟩,
    ⟨h.right.requests,h.right.calls,h.right.compilations,h.right.nodes⟩⟩

/-- The way to a page passes no spare place. -/
lemma writeAlike (hworlds : config.AlikeIn w u) {c : String × String}
    (hc : c ∈ config.contracts) :
    Review.WriteAlike w u (config.Reached directory w st su) directory c.1 where
  differ := hworlds.differ
  folder := keepStep_change fun _ _ h => h.makeDirectories fun l hl hspare =>
    hspare.2 c hc ⟨l,rfl,.inl hl⟩
  page filename page hname := keepStep_change fun _ _ h => h.write (fun l hl hspare =>
    hspare.2 c hc ⟨l,rfl,.inr ⟨filename,hname,hl⟩⟩) page false

end Config.Reached

lemma Config.AlikeIn.setting (h : config.AlikeIn w u) {name : String}
    (hname : name ∉ nodeVariables) : w.setting? name = u.setting? name := by
  unfold World.setting?
  rw [h.environment name hname]

/-- Worlds that differ in the toolchain only have the same explorer. -/
lemma Config.AlikeIn.explorerIn (h : config.AlikeIn w u)
    (hhost : ∀ name ∈ nodeVariables, config.explorerHostVariable ≠ some name)
    (htoken : ∀ name ∈ nodeVariables, config.explorerTokenVariable ≠ some name) :
    config.explorerIn w = config.explorerIn u := by
  have hsame : config.explorerTokenVariable.bind w.setting? =
      config.explorerTokenVariable.bind u.setting? := by
    cases hname : config.explorerTokenVariable with
    | none => rfl
    | some name => exact h.setting fun hmem => htoken name hmem hname
  have hhostVariable : config.explorerHostVariable.getD "" ∉ nodeVariables := by
    cases hname : config.explorerHostVariable with
    | none => decide
    | some name => exact fun hmem => hhost name hmem hname
  unfold Config.explorerIn
  rw [hsame, h.setting hhostVariable]

namespace Verifier

/-! ## Runs -/

lemma keepStep_run_of_disabled {v : Verifier} (hworlds : v.config.AlikeIn w u)
    (hexplorer : v.config.explorerIn w = some v.explorer)
    (hoff : v.options.skipBytecode = true ∨ v.config.bytecode = none)
    (localUrl : String) (remoteUrl : Option String) :
    KeepStep w u (v.config.Reached v.options.directory w st su) v.run
      (v.elsewhere v.client localUrl remoteUrl).run := by
  have halike : ReviewAlike w u (v.config.Reached v.options.directory w st su) v v.client :=
    { limit := hworlds.directoryLimit
      source := fun c hc => Config.Reached.keepStep_send hworlds (.source hexplorer hc)
      contents := fun _ _ _ _ _ => Config.Reached.keepStep_send hworlds
        (.contents (Repository.contentsRequest_request _ _ _ _ _ _))
      pages := fun c hc => Config.Reached.writeAlike hworlds hc
      print := Config.Reached.keepStep_print }
  have hcheck : CheckAlike w u (v.config.Reached v.options.directory w st su) v
      (v.elsewhere v.client localUrl remoteUrl) none := fun _ _ _ => keepStep_pure _
  have hoff' : (v.elsewhere v.client localUrl remoteUrl).options.skipBytecode = true ∨
      (v.elsewhere v.client localUrl remoteUrl).config.bytecode = none := hoff
  intro a b h
  unfold run
  rw [run_bind, run_bind, prepare_of_disabled hoff, prepare_of_disabled hoff']
  have hall := keepStep_verifyAll halike hcheck (List.Subset.refl _)
  exact hall.bind (fun _ => keepStep_pure _) a b h

/-- Without the bytecode step a verification does not depend on the toolchain. In worlds that differ
only there, whatever URLs the nodes have and whatever the compilers' directory holds, it gives the
same result, sends the same requests, shows the same and leaves the same pages. All its requests go
to the explorer or to the contents interface, and it neither compiles anything nor starts or calls a
node. -/
theorem verifyConfig_without_toolchain {options : Options}
    (hoff : options.skipBytecode = true ∨ config.bytecode = none)
    (hhost : ∀ name ∈ nodeVariables, config.explorerHostVariable ≠ some name)
    (htoken : ∀ name ∈ nodeVariables, config.explorerTokenVariable ≠ some name)
    (hworlds : config.AlikeIn w u) (localUrl : String) (remoteUrl : Option String)
    (hstates : st.AgreeOff (config.Spare options.directory) su) :
    let one := (verifyConfig config options).run w st
    let two := (verifyConfig config { options with localUrl, remoteUrl }).run u su
    one.1 = two.1 ∧ one.2.AgreeOff (config.Spare options.directory) two.2 ∧
      (∀ c ∈ config.contracts, ∀ filename, '/' ∉ filename.toList →
        one.2.files.fileAt? (Review.pagePath options.directory c.1 filename) =
          two.2.files.fileAt? (Review.pagePath options.directory c.1 filename)) ∧
      st.OnlySends (config.Asks w) one.2 ∧ su.OnlySends (config.Asks w) two.2 := by
  intro one two
  have hstart : config.Reached options.directory w st su st su :=
    ⟨hstates,.refl st,.refl su⟩
  obtain ⟨hresult,hreached⟩ : one.1 = two.1 ∧
      config.Reached options.directory w st su one.2 two.2 := by
    have htokens : w.setting? tokenVariable = u.setting? tokenVariable :=
      hworlds.setting (by decide)
    simp only [one, two, run_verifyConfig, ← hworlds.explorerIn hhost htoken, ← htokens]
    cases hexplorer : config.explorerIn w with
    | none => exact ⟨rfl,hstart⟩
    | some explorer =>
      cases Repository.Client.withToken (w.setting? tokenVariable) with
      | error e => exact ⟨rfl,hstart⟩
      | ok client =>
        exact keepStep_run_of_disabled (v := ⟨config, options, explorer, client⟩) hworlds hexplorer
          hoff localUrl remoteUrl st su hstart
  refine ⟨hresult,hreached.agree,fun c hc filename hname => ?_,hreached.left,hreached.right⟩
  exact hreached.agree.files.fileAt? fun l hl hspare =>
    hspare.2 c hc ⟨l,rfl,.inr ⟨filename,hname,hl⟩⟩

/-- A world with the same explorer in which nothing of the toolchain works. -/
def brokenTools : World :=
  { uniformExplorer with
    reply := fun sent r =>
      if Text.startsWith "https://binaries.soliditylang.org/" r.url then none
      else uniformExplorer.reply sent r
    environment := fun name => if name = "REMOTE_RPC_URL" then some "http://localhost" else none
    compiler := fun _ _ => ⟨1, "", ""⟩
    isBusy := fun _ _ => true }

/-- A state in which a compiler is kept, or none. -/
def keeping (program : Option String) : State where
  files := ⟨("/tmp", .directory) :: match program with
    | some text => [("/tmp/solc_builds", .directory), ("/tmp/solc_builds/solc", .file text true)]
    | none => []⟩

lemma alikeIn_brokenTools : sourcesOnly.AlikeIn uniformExplorer brokenTools where
  environment name hname := by
    have hne : name ≠ "REMOTE_RPC_URL" := by
      rintro rfl
      exact hname List.mem_cons_self
    simp [uniformExplorer, brokenTools, World.answering, hne]
  directoryLimit := rfl
  differ := rfl
  reply sent r host hhost htrusted := by
    have hother : Text.startsWith "https://binaries.soliditylang.org/" r.url = false := by
      refine Bool.eq_false_iff.mpr fun hstarts => ?_
      obtain ⟨rest,hrest⟩ := Option.isSome_iff_exists.mp hstarts
      have hlead : "https://binaries.soliditylang.org/".toList =
          "https://".toList ++ ("binaries.soliditylang.org".toList ++ ['/']) := by decide +kernel
      have hplain : "binaries.soliditylang.org".toList.all Url.isPlain = true := by
        decide +kernel
      have hname : Url.Host.ofSpecial "binaries.soliditylang.org".toList =
          .ok (.domain "binaries.soliditylang.org".toList) := by decide +kernel
      have hurl : r.url.toList =
          "https://".toList ++ ("binaries.soliditylang.org".toList ++ '/' :: rest) := by
        rw [Text.after?_eq_some_iff.mp hrest, hlead]
        simp
      obtain ⟨path,hparse⟩ := Url.parse_name hplain (by decide +kernel) hname hurl
      have hother : host = .domain "binaries.soliditylang.org".toList := by
        simpa [Request.host?, hparse, Except.toOption, eq_comm] using hhost
      rcases htrusted with rfl | ⟨x,hx,c,hc,hsource⟩
      · revert hother
        decide +kernel
      · cases hx
        obtain rfl := List.mem_singleton.mp hc
        rw [hother] at hsource
        revert hsource
        decide +kernel
    simp [brokenTools, hother]

lemma agreeOff_keeping (program : String) :
    (keeping (some program)).AgreeOff (sourcesOnly.Spare "digest") (keeping none) where
  requests := rfl
  printed := rfl
  events := rfl
  files l hl := by
    have hrelative : ∀ c ∈ sourcesOnly.contracts,
        Path.base (Review.pageDirectory "digest" c.1) = [] := by decide
    have hfree := mt (Config.spare_iff_of_relative hrelative).mpr hl
    have hplace : "/tmp/solc_builds" ≠ l.text := fun heq => hfree (.inl heq.symm)
    have hprogram : "/tmp/solc_builds/solc" ≠ l.text := fun heq =>
      hfree (.inr ⟨"solc",heq.symm.trans (by decide)⟩)
    by_cases htop : "/tmp" = l.text <;>
      simp [keeping, Files.entryAt?, htop, hplace, hprogram]

/-- A verification gives the same where the compilers' site is down, a node is named and no compiler
is kept. -/
theorem verifyConfig_without_toolchain_broken :
    sourcesOnly.bytecode = none ∧ sourcesOnly.AlikeIn uniformExplorer brokenTools ∧
    (keeping (some "solc")).AgreeOff (sourcesOnly.Spare "digest") (keeping none) ∧
    let one := (verifyConfig sourcesOnly {}).run uniformExplorer (keeping (some "solc"))
    let two := (verifyConfig sourcesOnly
      { localUrl := "http://localhost", remoteUrl := some "http://localhost" }).run brokenTools
        (keeping none)
    one.1.isOk = true ∧ one.1 = two.1 ∧
      two.2.requests.map (·.url) = ["https://blockscout.com/api/v2/smart-contracts/0x1",
        "https://api.github.com/repos/owner/name/contents/A"] := by
  have hworlds := alikeIn_brokenTools
  have hstates := agreeOff_keeping "solc"
  have hoff : ({} : Options).skipBytecode = true ∨ sourcesOnly.bytecode = none := .inr rfl
  obtain ⟨hresult,-⟩ := verifyConfig_without_toolchain hoff (by decide) (by decide) hworlds
    "http://localhost" (some "http://localhost") hstates
  refine ⟨rfl,hworlds,hstates,?_,hresult,?_⟩ <;> decide +kernel

end Verifier

end DeployCheck
