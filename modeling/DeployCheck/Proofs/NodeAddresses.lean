import DeployCheck.Node
import DeployCheck.Proofs.Url.Hosts
import DeployCheck.Proofs.Url.LetterNames

/-! Addresses of a local node that name their host in small letters. The port is found unless it is
the scheme's own, which addresses leave out, so that such an address counts as one without a port. -/
namespace DeployCheck

/-- The own port of a scheme. -/
inductive Url.OwnPort : String → Nat → Prop
  | http : OwnPort "http" 80
  | ws : OwnPort "ws" 80
  | https : OwnPort "https" 443
  | wss : OwnPort "wss" 443

lemma Url.ownPort_iff {scheme : String} (h : scheme ∈ Url.webSchemes) {port : Nat} :
    Url.OwnPort scheme port ↔ Url.defaultPort? scheme = some port := by
  constructor
  · rintro (_ | _ | _ | _) <;> decide
  · intro hport
    simp only [Url.webSchemes, List.mem_cons, List.not_mem_nil, or_false] at h
    rcases h with rfl | rfl | rfl | rfl <;>
    · obtain rfl := Option.some.inj hport
      constructor

namespace Url.IsLetterName

variable {name : List Char} (h : IsLetterName name)

include h

lemma all_isPlain : name.all isPlain = true := by
  rw [List.all_eq_true]
  refine h.forall_mem (fun c hlo hhi => ?_) (by decide)
  simp only [isPlain, Bool.or_eq_true]
  exact .inl (.inl (Text.isAlphanum_iff.mpr (.inr (.inr ⟨hlo,hhi⟩))))

/-- An address with a name of letters is read as it is: its port is the one behind the name. -/
theorem parse_eq {scheme : String} (hscheme : scheme ∈ webSchemes) {rest : List Char}
    (hvisible : ∀ c ∈ rest, 0x20 < c.toNat) (hrest : EndsName rest) {text : String}
    (htext : text.toList = scheme.toList ++ "://".toList ++ (name ++ rest)) :
    parse text = (portBehind scheme rest).map fun p =>
      ⟨scheme, some (.domain name), p.1, Path.afterAuthority true p.2⟩ := by
  have hlead : ∀ scheme ∈ webSchemes,
      ((scheme.toList ++ "://".toList).all fun c => decide (0x20 < c.toNat)) = true := by
    decide
  have hname : ∀ c ∈ name, 0x20 < c.toNat := fun c hc =>
    visible_of_isPlain (List.all_eq_true.mp h.all_isPlain c hc)
  have hall : ∀ c ∈ text.toList, 0x20 < c.toNat := by
    rw [htext, List.forall_mem_append]
    exact ⟨fun c hc => of_decide_eq_true (List.all_eq_true.mp (hlead scheme hscheme) c hc),
      List.forall_mem_append.mpr ⟨hname,hvisible⟩⟩
  refine parse_of_scheme h.all_isPlain hscheme h.ne_nil h.ofSpecial_eq hrest ?_
  rw [cleaned_visible hall, htext]

end Url.IsLetterName

namespace LocalNode

/-- The address of a node at a host, with a port behind it. -/
def addressAt (scheme host : String) (port : Nat) : String :=
  scheme ++ "://" ++ host ++ ":" ++ toString port

lemma parse_addressAt {scheme host : String} {port : Nat} (hscheme : scheme ∈ Url.webSchemes)
    (hhost : Url.IsLetterName host.toList) (hport : port ≤ 65535) :
    Url.parse (addressAt scheme host port) = .ok ⟨scheme, some (.domain host.toList),
      if Url.defaultPort? scheme = some port then none else some port,
      Url.Path.afterAuthority true []⟩ := by
  have hdigits : ∀ c ∈ Nat.toDigits 10 port, 48 ≤ c.toNat ∧ c.toNat ≤ 57 := fun c hc =>
    Char.isDigit_iff_toNat.mp (Text.isDigit_of_mem_toDigits c hc)
  have hvisible : ∀ c ∈ ':' :: Nat.toDigits 10 port, 0x20 < c.toNat := by
    refine List.forall_mem_cons.mpr ⟨by decide,fun c hc => ?_⟩
    have hc' : 48 ≤ c.toNat := (hdigits c hc).1
    omega
  have hends : Url.EndsName (':' :: Nat.toDigits 10 port) := by
    refine ⟨by simp,fun hmem => ?_⟩
    rcases List.mem_cons.mp (List.takeWhile_subset _ hmem) with heq | hmem
    · exact absurd heq (by decide)
    · exact absurd (hdigits '@' hmem) (by decide)
  have htext : (addressAt scheme host port).toList =
      scheme.toList ++ "://".toList ++ (host.toList ++ ':' :: Nat.toDigits 10 port) := by
    simp [addressAt]
  rw [hhost.parse_eq hscheme hvisible hends htext, Url.portBehind_toDigits scheme hport]
  rfl

lemma hostAndPort_of_parse {url : String} {parsed : Url} {host : Url.Host}
    (h : Url.parse url = .ok parsed) (hhost : parsed.host = some host) :
    hostAndPort url =
      parsed.port.elim (.error (.noPort url)) fun port => .ok (host.text, port) := by
  simp only [hostAndPort, h, hhost]
  cases parsed.port <;> rfl

/-- A port that stands behind a host is found unless it is the scheme's own: then the address counts
as one that names no port, and so does an address without a port. -/
theorem hostAndPort_addressAt {scheme host : String} {port : Nat}
    (hscheme : scheme ∈ ["http", "https", "ws", "wss"]) (hhost : Url.IsLetterName host.toList)
    (hport : port ≤ 65535) :
    (¬Url.OwnPort scheme port → hostAndPort (addressAt scheme host port) = .ok (host, port)) ∧
    (Url.OwnPort scheme port → hostAndPort (addressAt scheme host port) =
      .error (.noPort (addressAt scheme host port))) ∧
    hostAndPort (scheme ++ "://" ++ host) = .error (.noPort (scheme ++ "://" ++ host)) := by
  have hparse := parse_addressAt hscheme hhost hport
  have hends : Url.EndsName [] := ⟨by simp,by simp⟩
  have hbare : Url.parse (scheme ++ "://" ++ host) = .ok
      ⟨scheme, some (.domain host.toList), none, Url.Path.afterAuthority true []⟩ :=
    hhost.parse_eq hscheme (by simp) hends (by simp)
  have htext : (Url.Host.domain host.toList).text = host := String.ofList_toList
  refine ⟨fun hown => ?_,fun hown => ?_,hostAndPort_of_parse hbare rfl⟩
  · rw [Url.ownPort_iff hscheme] at hown
    rw [hostAndPort_of_parse hparse rfl, if_neg hown, Option.elim_some, htext]
  · rw [Url.ownPort_iff hscheme] at hown
    rw [hostAndPort_of_parse hparse rfl, if_pos hown, Option.elim_none]

/-- A port of another scheme, the scheme's own, and none. -/
theorem hostAndPort_addressAt_testnet : "wss" ∈ ["http", "https", "ws", "wss"] ∧
    Url.IsLetterName "node.testnet.local".toList ∧ 80 ≤ 65535 ∧
    hostAndPort "wss://node.testnet.local:80" = .ok ("node.testnet.local", 80) ∧
    hostAndPort "wss://node.testnet.local:443" =
      .error (.noPort "wss://node.testnet.local:443") ∧
    hostAndPort "wss://node.testnet.local" = .error (.noPort "wss://node.testnet.local") := by
  have hhost : Url.IsLetterName "node.testnet.local".toList := ⟨by decide,by decide⟩
  have hother : ¬Url.OwnPort "wss" 80 := by
    rw [Url.ownPort_iff (by decide)]
    decide
  have hfound := @hostAndPort_addressAt "wss" "node.testnet.local" 80 (by decide) hhost (by decide)
  have hlost := @hostAndPort_addressAt "wss" "node.testnet.local" 443 (by decide) hhost (by decide)
  exact ⟨by decide,hhost,by decide,hfound.1 hother,hlost.2.1 .wss,hfound.2.2⟩

/-- A port that is named is not found where it is the scheme's own. -/
theorem hostAndPort_own_port : hostAndPort "http://localhost:80" ≠ .ok ("localhost", 80) ∧
    hostAndPort "http://localhost:80" = .error (.noPort "http://localhost:80") := by
  have hlost : hostAndPort "http://localhost:80" = .error (.noPort "http://localhost:80") := by
    decide +kernel
  exact ⟨by rw [hlost]; decide,hlost⟩

end LocalNode

end DeployCheck
