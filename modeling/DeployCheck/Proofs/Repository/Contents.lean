import DeployCheck.Proofs.Repository.Search
import DeployCheck.Proofs.Requests
import DeployCheck.Repository.Client

/-! Repositories as the contents interface shows them. Where the interface answers every request
about a repository from fixed contents, a client's search is a search of these contents. -/
namespace DeployCheck.Repository

open DeployCheck.Action DeployCheck.Session

namespace Client

variable {c : Client} {r : RepositoryRef} {repository : String} {contents : Contents} {w : World}

/-- What a client sends to the contents interface. -/
def request (c : Client) (url accept : String) : Request :=
  { Request.get url with headers := c.headers accept }

/-- What a client sends for a query about a repository. -/
def requestOf (c : Client) (r : RepositoryRef) (repository : String) : Query → Request
  | .file directory path => c.request (contentsUrl repository directory path r.commit) rawFile
  | .listing directory => c.request (contentsUrl repository "" directory r.commit) listing

/-- A reply has no error status. -/
def Succeeds (reply : Reply) : Prop := reply.status ≠ 404 ∧ isErrorStatus reply.status = false

/-- At all times the interface answers from the contents of a repository, and no request fails: what
is not there is not found, and what is no listing counts as an empty one. -/
structure Serves (w : World) (c : Client) (r : RepositoryRef) (repository : String)
    (contents : Contents) : Prop where
  link : parseLink r.url = .ok repository
  host (q : Query) : NamesHost (c.requestOf r repository q)
  file (sent : List Request) (directory path : String) : ∃ reply,
    w.reply sent (c.requestOf r repository (.file directory path)) = some reply ∧
      match contents.fileAt directory path with
      | none => reply.status = 404
      | some text => Succeeds reply ∧ reply.body.text = text
  listing (sent : List Request) (directory : String) : ∃ reply,
    w.reply sent (c.requestOf r repository (.listing directory)) = some reply ∧
      (reply.status = 404 ∧ contents.entries directory = [] ∨
        Succeeds reply ∧ ∃ j, reply.body.json? = some j ∧
          contents.entries directory = (Json.listOf entryOf j).getD [])

/-- The state after a query: its request is noted. -/
def asked (c : Client) (r : RepositoryRef) (repository : String) (st : State) (q : Query) : State :=
  { st with requests := st.requests ++ [c.requestOf r repository q] }

lemma run_linked (h : parseLink r.url = .ok repository) (st : State) :
    (linked r).run w st = (.ok repository, st) := by
  rw [linked, h]
  rfl

section Get

variable {url accept : String} {st : State} {reply : Reply}

lemma run_get_absent (hhost : NamesHost (c.request url accept))
    (hreply : w.reply st.requests (c.request url accept) = some reply)
    (hstatus : reply.status = 404) : (c.get url accept).run w st =
      (.ok none, { st with requests := st.requests ++ [c.request url accept] }) := by
  refine run_bind_eq_ok_iff.mpr ⟨reply,_,send_eq_ok_iff.mpr ⟨hhost,hreply,rfl⟩,?_⟩
  simp [hstatus, request]

lemma run_get_found (hhost : NamesHost (c.request url accept))
    (hreply : w.reply st.requests (c.request url accept) = some reply)
    (hstatus : Succeeds reply) : (c.get url accept).run w st =
      (.ok (some reply), { st with requests := st.requests ++ [c.request url accept] }) := by
  refine run_bind_eq_ok_iff.mpr ⟨reply,_,send_eq_ok_iff.mpr ⟨hhost,hreply,rfl⟩,?_⟩
  simp [hstatus.1, hstatus.2, request]

end Get

/-- A client that is served the contents of a repository finds them in its tree. -/
theorem answers_tree (h : Serves w c r repository contents) :
    Answers (c.tree r) w contents (c.asked r repository) where
  fileAt directory path st := by
    obtain ⟨reply,hreply,hfile⟩ := h.file st.requests directory path
    have hhost := h.host (.file directory path)
    unfold asked
    simp only [requestOf] at hreply hhost ⊢
    refine run_bind_eq_ok_iff.mpr ⟨repository,st,run_linked h.link st,?_⟩
    cases htext : contents.fileAt directory path with
    | none =>
      rw [htext] at hfile
      exact run_bind_eq_ok_iff.mpr ⟨none,_,run_get_absent hhost hreply hfile,run_pure _⟩
    | some text =>
      rw [htext] at hfile
      obtain ⟨hstatus,rfl⟩ := hfile
      exact run_bind_eq_ok_iff.mpr ⟨some reply,_,run_get_found hhost hreply hstatus,run_pure _⟩
  entries directory st := by
    obtain ⟨reply,hreply,hlisting⟩ := h.listing st.requests directory
    have hhost := h.host (.listing directory)
    unfold asked
    simp only [requestOf] at hreply hhost ⊢
    refine run_bind_eq_ok_iff.mpr ⟨repository,st,run_linked h.link st,?_⟩
    rcases hlisting with ⟨hstatus,hempty⟩ | ⟨hstatus,j,hparse,hentries⟩
    · refine run_bind_eq_ok_iff.mpr ⟨none,_,run_get_absent hhost hreply hstatus,?_⟩
      rw [hempty]
      exact run_pure _
    · refine run_bind_eq_ok_iff.mpr ⟨some reply,_,run_get_found hhost hreply hstatus,?_⟩
      rw [hentries]
      exact run_bind_eq_ok_iff.mpr ⟨j,_,require_eq_ok_iff.mpr ⟨hparse,rfl⟩,run_pure _⟩

end Client

end DeployCheck.Repository
