import DeployCheck.Proofs.Repository.Contents
import DeployCheck.Proofs.Url.Hosts

/-! Where clients send their requests. Whatever repository, path and commit an address of the
contents interface names, it leads to the host of the interface. -/
namespace DeployCheck

open DeployCheck.Session

/-- The host that a request goes to. -/
def Request.host? (r : Request) : Option Url.Host := (Url.parse r.url).toOption.bind Url.host

lemma exists_host_of_namesHost {r : Request} (h : NamesHost r) : ∃ host, r.host? = some host := by
  obtain ⟨url,hurl,hweb⟩ := h
  obtain ⟨host,hhost⟩ := Option.isSome_iff_exists.mp (Bool.and_eq_true_iff.mp hweb).2
  exact ⟨host,by simp [Request.host?, hurl, Except.toOption, hhost]⟩

namespace Repository

/-- The host of the contents interface. -/
def contentsHost : Url.Host := .domain "api.github.com".toList

theorem parse_contentsUrl (repository root path commit : String) : ∃ rest,
    Url.parse (contentsUrl repository root path commit) =
      .ok ⟨"https", some contentsHost, none, rest⟩ := by
  have hplain : "api.github.com".toList.all Url.isPlain = true := by decide +kernel
  have hhost : Url.Host.ofSpecial "api.github.com".toList = .ok contentsHost := by decide +kernel
  have hlead : "https://api.github.com/repos/".toList =
      "https://".toList ++ ("api.github.com".toList ++ '/' :: "repos/".toList) := by decide +kernel
  have hne : "api.github.com".toList ≠ [] := by decide +kernel
  apply Url.parse_name hplain hne hhost
  unfold contentsUrl
  simp only [String.toList_append]
  rw [hlead]
  simp only [List.append_assoc, List.cons_append]
  rfl

lemma namesHost_request (c : Client) (repository root path commit accept : String) :
    NamesHost (c.request (contentsUrl repository root path commit) accept) := by
  obtain ⟨rest,hurl⟩ := parse_contentsUrl repository root path commit
  exact ⟨_,hurl,by simp [Url.isWeb]⟩

/-- A request that reads from the contents interface. It carries the token, if there is one, and no
other authorization. -/
structure ContentsRequest (token : Option String) (r : Request) : Prop where
  method : r.method = "GET"
  url : ∃ repository root path commit, r.url = contentsUrl repository root path commit
  host : r.host? = some contentsHost
  authorization : (r.headers.filter fun h => h.1 == "authorization") =
    token.toList.map fun t => ("authorization", "token " ++ t)
  body : r.body = none

theorem contentsRequest_request (c : Client) (repository root path commit accept : String) :
    ContentsRequest c.token (c.request (contentsUrl repository root path commit) accept) where
  method := rfl
  url := ⟨_,_,_,_,rfl⟩
  host := by
    obtain ⟨rest,hurl⟩ := parse_contentsUrl repository root path commit
    simp [Request.host?, Client.request, hurl, Request.get, Except.toOption]
  authorization := by
    cases htoken : c.token <;> simp [Client.request, Client.headers, htoken]
  body := rfl

end Repository

end DeployCheck
