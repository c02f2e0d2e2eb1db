import DeployCheck.Proofs.Result
import DeployCheck.Proofs.Text.HexReading
import DeployCheck.Proofs.Text.Numerals
import DeployCheck.Url.Basic
import Mathlib.Data.List.TakeWhile
import Mathlib.Tactic.Common

/-! Hosts of addresses that begin with the scheme of the web and a plain name. What stands behind
the name has no part in them, and a port is found behind it unless it is the scheme's own. -/
namespace DeployCheck.Url

/-- A character that names are made of: a letter, a digit, a dot or a hyphen. -/
def isPlain (c : Char) : Bool := c.isAlphanum || c == '.' || c == '-'

lemma ne_of_isPlain {c d : Char} (hc : isPlain c = true) (hd : isPlain d = false) : c ≠ d := by
  rintro rfl
  exact Bool.false_ne_true (hd.symm.trans hc)

lemma visible_of_isPlain {c : Char} (h : isPlain c = true) : 0x20 < c.toNat := by
  simp only [isPlain, Bool.or_eq_true, beq_iff_eq] at h
  rcases h with (h | rfl) | rfl
  · have hrange := Text.isAlphanum_iff.mp h
    omega
  · decide
  · decide

section Visible

variable {lead : List Char} (h : ∀ c ∈ lead, 0x20 < c.toNat)

include h

lemma dropWhile_visible (hne : lead ≠ []) (rest : List Char) :
    (lead ++ rest).dropWhile (fun c => decide (c.toNat ≤ 0x20)) = lead ++ rest := by
  obtain ⟨c,lead,rfl⟩ := List.exists_cons_of_ne_nil hne
  rw [List.cons_append, List.dropWhile_cons_of_neg]
  simpa using h c List.mem_cons_self

lemma filter_visible : lead.filter (fun c => c != '\t' && c != '\n' && c != '\r') = lead := by
  rw [List.filter_eq_self]
  intro c hc
  have hvisible := h c hc
  have hcontrol : ∀ d : Char, d.toNat ≤ 0x20 → c ≠ d := by
    rintro d hd rfl
    omega
  simp [hcontrol '\t' (by decide), hcontrol '\n' (by decide), hcontrol '\r' (by decide)]

/-- Cleaning keeps a beginning without spaces and controls. -/
lemma cleaned_append (rest : List Char) : ∃ kept, cleaned (lead ++ rest) = lead ++ kept := by
  by_cases hne : lead = []
  · subst hne
    exact ⟨_,rfl⟩
  have hback : ∃ kept, ((lead ++ rest).reverse.dropWhile fun c => decide (c.toNat ≤ 0x20)).reverse =
      lead ++ kept := by
    rw [List.reverse_append, List.dropWhile_append]
    have hreverse : ∀ c ∈ lead.reverse, 0x20 < c.toNat := by simpa using h
    have hlead := dropWhile_visible hreverse (by simpa using hne) []
    rw [List.append_nil] at hlead
    split
    · exact ⟨[],by rw [hlead]; simp⟩
    · exact ⟨_,by rw [List.reverse_append, List.reverse_reverse]⟩
  obtain ⟨kept,hkept⟩ := hback
  refine ⟨kept.filter fun c => c != '\t' && c != '\n' && c != '\r',?_⟩
  unfold cleaned
  dsimp only
  rw [dropWhile_visible h hne, hkept, List.filter_append, filter_visible h]

/-- A text without spaces and controls is clean. -/
lemma cleaned_visible : cleaned lead = lead := by
  by_cases hne : lead = []
  · subst hne
    rfl
  have hfront := dropWhile_visible h hne []
  have hreverse : ∀ c ∈ lead.reverse, 0x20 < c.toNat := by simpa using h
  have hback := dropWhile_visible hreverse (by simpa using hne) []
  rw [List.append_nil] at hfront hback
  unfold cleaned
  dsimp only
  rw [hfront, hback, List.reverse_reverse, filter_visible h]

end Visible

/-! ## Schemes -/

/-- The schemes of addresses that name a host. -/
def webSchemes : List String := ["http", "https", "ws", "wss"]

lemma splitScheme_of_mem {scheme : String} (h : scheme ∈ webSchemes) (rest : List Char) :
    splitScheme (scheme.toList ++ ':' :: rest) = some (scheme, rest) := by
  simp only [webSchemes, List.mem_cons, List.not_mem_nil, or_false] at h
  rcases h with rfl | rfl | rfl | rfl <;> rfl

lemma isSpecial_of_mem {scheme : String} (h : scheme ∈ webSchemes) : isSpecial scheme = true := by
  have hall : ∀ scheme ∈ webSchemes, isSpecial scheme = true := by decide
  exact hall scheme h

lemma isFile_of_mem {scheme : String} (h : scheme ∈ webSchemes) : isFile scheme = false := by
  have hall : ∀ scheme ∈ webSchemes, isFile scheme = false := by decide
  exact hall scheme h

/-! ## Names -/

/-- What may stand behind a name: a port or an end of the authority, and no at sign before the
end. -/
structure EndsName (rest : List Char) : Prop where
  head : ∀ c ∈ rest.head?, c = ':' ∨ Authority.isEnd true c = true
  no_user : '@' ∉ rest.takeWhile fun c => !Authority.isEnd true c

lemma endsName_slash (rest : List Char) : EndsName ('/' :: rest) := by
  refine ⟨?_,?_⟩
  · simp only [List.head?_cons, Option.mem_some_iff]
    rintro _ rfl
    exact .inr (by decide)
  · rw [List.takeWhile_cons_of_neg (by decide)]
    exact List.not_mem_nil

/-- The port behind a name, and what follows it. -/
def portBehind (scheme : String) : List Char → Except Error (Option Nat × List Char)
  | ':' :: rest => Authority.readPort scheme rest
  | rest => .ok (none, rest)

/-- A port in decimal is found, unless it is the scheme's own. -/
lemma portBehind_toDigits (scheme : String) {port : Nat} (h : port ≤ 65535) :
    portBehind scheme (':' :: Nat.toDigits 10 port) =
      .ok (if defaultPort? scheme = some port then none else some port, []) := by
  have hdigits : ∀ c ∈ Nat.toDigits 10 port, c.isDigit = true := Text.isDigit_of_mem_toDigits
  have hsmall : ¬65535 < port := by omega
  change Authority.readPort scheme _ = _
  unfold Authority.readPort
  rw [List.takeWhile_eq_self_iff.mpr hdigits, List.dropWhile_eq_nil_iff.mpr hdigits]
  dsimp only
  rw [Text.natOfDigits_toDigits]
  by_cases hown : defaultPort? scheme = some port
  · simp [hown]
  · simp [hown, hsmall]

section Name

variable {name : List Char} (hplain : name.all isPlain = true)

include hplain

lemma isEnd_of_mem {c : Char} (hc : c ∈ name) : Authority.isEnd true c = false := by
  have hne := fun d hd => ne_of_isPlain (d := d) (List.all_eq_true.mp hplain c hc) hd
  simp [Authority.isEnd, Path.isSlash, hne '/' (by decide), hne '\\' (by decide),
    hne '?' (by decide), hne '#' (by decide)]

lemma splitHost_name {rest : List Char} (hrest : EndsName rest) :
    Authority.splitHost true false (name ++ rest) = (name, rest) := by
  induction name with
  | nil =>
    cases rest with
    | nil => rfl
    | cons c rest =>
      have hc := hrest.head c rfl
      rw [List.nil_append, Authority.splitHost, if_pos]
      simpa using hc
  | cons c name ih =>
    have hend := isEnd_of_mem hplain (List.mem_cons_self (a := c))
    obtain ⟨hc,hname⟩ := Bool.and_eq_true_iff.mp (List.all_cons ▸ hplain)
    have hne := fun d hd => ne_of_isPlain (d := d) hc hd
    have hstart : ((c == ':' && !false) || Authority.isEnd true c) = false := by
      simp [hend, hne ':' (by decide)]
    rw [List.cons_append, Authority.splitHost, hstart]
    simp [hne '[' (by decide), hne ']' (by decide), ih hname]

lemma readUser_name {rest : List Char} (hrest : EndsName rest) :
    Authority.readUser true (name ++ rest) = .ok (false, name ++ rest) := by
  have hat : '@' ∉ name := fun hmem =>
    ne_of_isPlain (d := '@') (List.all_eq_true.mp hplain _ hmem) (by decide) rfl
  unfold Authority.readUser Authority.splitUser
  rw [List.takeWhile_append_of_pos fun c hc => by simp [isEnd_of_mem hplain hc]]
  simp [hat, hrest.no_user]

/-- An authority that begins with a plain name names a host, and the port behind it. -/
lemma read_name {scheme : String} (hscheme : scheme ∈ webSchemes) {host : Host} (hne : name ≠ [])
    (hhost : Host.ofSpecial name = .ok host) {rest : List Char} (hrest : EndsName rest) :
    Authority.read scheme (name ++ rest) =
      (portBehind scheme rest).map fun p => (⟨some host, p.1⟩, p.2) := by
  have hempty : name.isEmpty = false := by simpa using hne
  unfold Authority.read
  rw [isSpecial_of_mem hscheme]
  dsimp only
  rw [readUser_name hplain hrest, Result.ok_bind]
  dsimp only
  rw [splitHost_name hplain hrest, hempty, hhost]
  unfold portBehind
  cases rest with
  | nil => rfl
  | cons c rest =>
    by_cases hc : c = ':'
    · subst hc
      change (Authority.readPort scheme rest >>= fun p => _) =
        (Authority.readPort scheme rest).map _
      cases Authority.readPort scheme rest <;> rfl
    · simp [hc, Except.map]

/-- An address with nothing to clean names the host behind its slashes, the port behind that, and
the path from there on. -/
theorem parse_of_scheme {scheme : String} (hscheme : scheme ∈ webSchemes) {host : Host}
    (hne : name ≠ []) (hhost : Host.ofSpecial name = .ok host) {text : String} {rest : List Char}
    (hrest : EndsName rest)
    (htext : cleaned text.toList = scheme.toList ++ "://".toList ++ (name ++ rest)) :
    parse text = (portBehind scheme rest).map fun p =>
      ⟨scheme, some host, p.1, Path.afterAuthority true p.2⟩ := by
  have hslashes : ('/' :: '/' :: (name ++ rest)).dropWhile (Path.isSlash true) = name ++ rest := by
    obtain ⟨c,name,rfl⟩ := List.exists_cons_of_ne_nil hne
    have hc := List.all_eq_true.mp hplain c List.mem_cons_self
    rw [List.dropWhile_cons_of_pos (by decide), List.dropWhile_cons_of_pos (by decide),
      List.cons_append, List.dropWhile_cons_of_neg]
    simp [Path.isSlash, ne_of_isPlain (d := '/') hc (by decide),
      ne_of_isPlain (d := '\\') hc (by decide)]
  have hsplit : splitScheme (scheme.toList ++ "://".toList ++ (name ++ rest)) =
      some (scheme, '/' :: '/' :: (name ++ rest)) := by
    rw [List.append_assoc]
    exact splitScheme_of_mem hscheme _
  unfold parse
  rw [htext, hsplit]
  dsimp only
  rw [isFile_of_mem hscheme, isSpecial_of_mem hscheme, hslashes]
  simp only [Bool.false_eq_true, if_false, if_true]
  unfold ofAuthority
  rw [read_name hplain hscheme hne hhost hrest, isSpecial_of_mem hscheme]
  cases portBehind scheme rest <;> rfl

/-- A secure address with nothing to clean names the host in front of its first slash and the path
from there on. -/
theorem parse_of_cleaned {host : Host} (hne : name ≠ []) (hhost : Host.ofSpecial name = .ok host)
    {text : String} {rest : List Char}
    (htext : cleaned text.toList = "https://".toList ++ (name ++ '/' :: rest)) :
    parse text = .ok ⟨"https", some host, none, Path.afterAuthority true ('/' :: rest)⟩ :=
  parse_of_scheme hplain (by decide) hne hhost (endsName_slash rest) htext

/-- The host of a secure address is the name in front of its first slash. -/
theorem parse_name {host : Host} (hne : name ≠ []) (hhost : Host.ofSpecial name = .ok host)
    {text : String} {rest : List Char}
    (htext : text.toList = "https://".toList ++ (name ++ '/' :: rest)) :
    ∃ path, parse text = .ok ⟨"https", some host, none, path⟩ := by
  have hvisible : ∀ c ∈ "https://".toList ++ (name ++ ['/']), 0x20 < c.toNat := by
    simp only [List.forall_mem_append, List.forall_mem_singleton]
    exact ⟨by simp,fun c hc => visible_of_isPlain (List.all_eq_true.mp hplain c hc),by decide⟩
  obtain ⟨kept,hkept⟩ := cleaned_append hvisible rest
  rw [List.append_assoc, List.append_assoc, List.singleton_append, List.append_assoc,
    List.append_assoc, List.singleton_append] at hkept
  exact ⟨_,parse_of_cleaned hplain hne hhost (htext ▸ hkept)⟩

end Name

end DeployCheck.Url
