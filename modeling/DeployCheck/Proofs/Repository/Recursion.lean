import DeployCheck.Proofs.Repository.Addresses
import DeployCheck.Proofs.Repository.Sending
import DeployCheck.Proofs.Text.Cuts

/-! Recursive fetches. The first request of a search is that of a direct fetch, however many slashes
stand around its root and its path. Only where a direct fetch finds no file does the search go on. -/
namespace DeployCheck

namespace Repository

open DeployCheck.Action DeployCheck.Session

lemma segment_dropAround (path : String) : segment (Text.dropAround '/' path) = segment path := by
  unfold segment
  rw [Text.dropAround_dropAround]

theorem contentsUrl_dropAround (repository root path commit : String) :
    contentsUrl repository (Text.dropAround '/' root) (Text.dropAround '/' path) commit =
      contentsUrl repository root path commit := by
  unfold contentsUrl
  rw [segment_dropAround, segment_dropAround]

namespace Client

variable (c : Client) (r : RepositoryRef) {repository : String} (w : World) (st : State)

/-- Whatever its answer, a request to the contents interface is noted. -/
lemma state_get (repository root path commit accept : String) :
    ((c.get (contentsUrl repository root path commit) accept).run w st).2 =
      { st with requests :=
        st.requests ++ [c.request (contentsUrl repository root path commit) accept] } := by
  have hhost := namesHost_request c repository root path commit accept
  have hsend : (send (c.request (contentsUrl repository root path commit) accept)).run w st = _ :=
    run_send _
  rw [if_pos hhost] at hsend
  unfold get
  rw [state_bind fun reply => ?_]
  · exact congrArg Prod.snd hsend
  · dsimp only
    split
    · exact within_pure _
    · split
      · exact (within_throw _).map _
      · exact within_pure _

theorem state_fileAt (hlink : parseLink r.url = .ok repository) (directory path : String) :
    ((c.fileAt r directory path).run w st).2 = c.asked r repository st (.file directory path) := by
  unfold fileAt
  rw [run_bind, run_linked hlink]
  dsimp only
  rw [state_bind fun _ => within_pure _]
  exact c.state_get w st repository directory path r.commit rawFile

/-- The directory is asked for before anything is made of its listing. -/
theorem state_entries (hlink : parseLink r.url = .ok repository) (directory : String) :
    ((c.entries r directory).run w st).2 = c.asked r repository st (.listing directory) := by
  unfold entries
  rw [run_bind, run_linked hlink]
  dsimp only
  rw [state_bind fun reply => ?_]
  · exact c.state_get w st repository "" directory r.commit listing
  · cases reply with
    | none => exact within_pure _
    | some reply => exact (within_require _ _).bind fun _ => within_pure _

lemma fileAt_dropAround (root path : String) :
    c.fileAt r (Text.dropAround '/' root) (Text.dropAround '/' path) = c.fileAt r root path := by
  unfold fileAt
  simp only [contentsUrl_dropAround]

/-- A search first asks for the file below its root. If there is none it lists the root, and then it
only sends requests. -/
theorem search_eq (limit : Nat) (root path : String) : ∃ more : List Entry → Session Found,
    (∀ entries, (more entries).Within State.Asks) ∧
    search (c.tree r) limit root path = c.fileAt r root path >>= fun
      | some content => pure (.text content)
      | none => c.entries r (Text.dropAround '/' root) >>= more := by
  rw [← fileAt_dropAround]
  unfold search
  generalize Text.dropAround '/' root = start
  have hnext : (Walk.start start).next? = some (start, ⟨[], [""], [start], none⟩) := rfl
  rw [walk.eq_def, hnext]
  refine ⟨_,?_,rfl⟩
  intro entries
  cases limit with
  | zero => exact within_pure _
  | succ limit => exact c.within_walk r asks_send _ _ _

/-- How a recursive fetch ends after a search. -/
def outcome (limit : Nat) : Found → Session (Option String)
  | .text content => pure (some content)
  | .absent => pure none
  | .unfinished => throw (.search limit)

lemma asks_outcome (limit : Nat) (found : Found) : (outcome limit found).Within State.Asks := by
  cases found with
  | text content => exact within_pure _
  | absent => exact within_pure _
  | unfinished => exact within_throw _

lemma run_fetch_true (path : String) : (c.fetch true r path).run w st =
    (search (c.tree r) w.directoryLimit r.root path >>= outcome w.directoryLimit).run w st := rfl

/-- A direct fetch sends one request, or none for a link that names no repository. A recursive fetch
has the same result and leaves the same state, unless there is no such file; then, and only then, it
sends further requests, beginning with one for the listing of the root. -/
theorem run_fetch_recursive (path : String) :
    match parseLink r.url with
    | .error cause =>
      (c.fetch false r path).run w st = (.error (.configuration cause), st) ∧
        (c.fetch true r path).run w st = (c.fetch false r path).run w st
    | .ok repository =>
      ((c.fetch false r path).run w st).2 = c.asked r repository st (.file r.root path) ∧
      match ((c.fetch false r path).run w st).1 with
      | .ok none => ∃ more, ((c.fetch true r path).run w st).2.requests =
          ((c.fetch false r path).run w st).2.requests ++
            c.requestOf r repository (.listing (Text.dropAround '/' r.root)) :: more
      | _ => (c.fetch true r path).run w st = (c.fetch false r path).run w st := by
  obtain ⟨more,hmore,hsearch⟩ := c.search_eq r w.directoryLimit r.root path
  have hdirect : (c.fetch false r path).run w st = (c.fileAt r r.root path).run w st := rfl
  have hrecursive := c.run_fetch_true r w st path
  rw [run_bind, hsearch, run_bind, ← hdirect] at hrecursive
  generalize (c.fetch false r path).run w st = direct at hdirect hrecursive ⊢
  generalize (c.fetch true r path).run w st = recursive at hrecursive ⊢
  cases hlink : parseLink r.url with
  | error cause =>
    have hfailed : direct = (.error (.configuration cause), st) := by
      rw [hdirect, fileAt, run_bind, linked, hlink]
      rfl
    rw [hfailed] at hrecursive
    exact ⟨hfailed,hrecursive.trans hfailed.symm⟩
  | ok repository =>
    have hasked := c.state_fileAt r w st hlink r.root path
    rw [← hdirect] at hasked
    refine ⟨hasked,?_⟩
    obtain ⟨result,next⟩ := direct
    cases result with
    | error e => exact hrecursive
    | ok found =>
      cases found with
      | some content => exact hrecursive
      | none =>
        have hlisted := within_after (c.entries r (Text.dropAround '/' r.root)) hmore w next
        have hended := within_after (c.entries r (Text.dropAround '/' r.root) >>= more)
          (asks_outcome w.directoryLimit) w next
        obtain ⟨sent,hsent⟩ := (hlisted.trans hended).requests
        have hrest : recursive = (c.entries r (Text.dropAround '/' r.root) >>= more >>=
            outcome w.directoryLimit).run w next := by
          rw [hrecursive, run_bind]
        refine ⟨sent,?_⟩
        rw [hrest, ← hsent, c.state_entries r _ _ hlink]
        simp only [asked, List.append_assoc, List.singleton_append]

end Client

end Repository

end DeployCheck
