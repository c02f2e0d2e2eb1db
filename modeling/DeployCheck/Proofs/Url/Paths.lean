import DeployCheck.Proofs.Text.Cuts
import DeployCheck.Proofs.Url.Hosts

/-! Paths that an address keeps as they are written: nothing in them is coded, and no segment is one
of dots. -/
namespace DeployCheck.Url

namespace Path

/-- A segment that does not begin like one of dots. -/
def IsPlainSegment (s : List Char) : Prop := s.head? ≠ some '.' ∧ s.head? ≠ some '%'

/-- A path without characters to be coded, without backslashes and with plain segments. -/
structure IsKept (cs : List Char) : Prop where
  uncoded : ∀ c ∈ cs, isCoded c = false
  no_backslash : '\\' ∉ cs
  segments : ∀ s ∈ Text.split '/' cs, IsPlainSegment s

variable {cs s : List Char}

/-- Kept paths with a slash between them are kept. -/
lemma IsKept.append_slash {ds : List Char} (hcs : IsKept cs) (hds : IsKept ds) :
    IsKept (cs ++ '/' :: ds) where
  uncoded := by
    simp only [List.forall_mem_append, List.forall_mem_cons]
    exact ⟨hcs.uncoded,by decide,hds.uncoded⟩
  no_backslash := by
    simp [hcs.no_backslash, hds.no_backslash]
  segments := by
    rw [Text.split_append_cons, List.forall_mem_append]
    exact ⟨hcs.segments,hds.segments⟩

lemma coded_of_uncoded (h : ∀ c ∈ cs, isCoded c = false) : coded cs = cs := by
  induction cs with
  | nil => rfl
  | cons c cs ih =>
    obtain ⟨hc,hcs⟩ := List.forall_mem_cons.mp h
    unfold coded at ih ⊢
    rw [List.flatMap_cons, ih hcs, hc]
    rfl

lemma segments_eq_split (h : '\\' ∉ cs) : segments true cs = Text.split '/' cs := by
  induction cs with
  | nil => rfl
  | cons c cs ih =>
    obtain ⟨hc,hcs⟩ := List.ne_and_not_mem_of_not_mem_cons h
    by_cases hslash : c = '/'
    · simp [segments, Text.split, isSlash, hslash, ih hcs]
    · obtain ⟨part,parts,hparts⟩ := List.exists_cons_of_ne_nil (Text.split_ne_nil '/' cs)
      simp [segments, Text.split, isSlash, hslash, hc.symm, ih hcs, hparts]

/-- Only capital letters change in lowercase. -/
lemma eq_of_toLower_eq {c d : Char} (h : c.toLower = d) (hd : d.toNat < 97) : c = d := by
  have hlower := Text.toNat_toLower c
  rw [h] at hlower
  split at hlower
  · omega
  · exact Char.toNat_inj.mp hlower.symm

lemma isDot_of_isPlainSegment (h : IsPlainSegment s) : isDot s = false ∧ isDoubleDot s = false := by
  cases s with
  | nil => decide
  | cons c s =>
    have hne : ∀ d : Char, d = '.' ∨ d = '%' → c ≠ d ∧ c.toLower ≠ d := by
      rintro d (rfl | rfl)
      · exact ⟨fun hc => h.1 (hc ▸ rfl),fun hc => h.1 (eq_of_toLower_eq hc (by decide) ▸ rfl)⟩
      · exact ⟨fun hc => h.2 (hc ▸ rfl),fun hc => h.2 (eq_of_toLower_eq hc (by decide) ▸ rfl)⟩
    have hdot := hne '.' (.inl rfl)
    have hpercent := hne '%' (.inr rfl)
    simp [isDot, isDoubleDot, hdot.1, hdot.2, hpercent.2]

namespace Trail

/-- Plain segments are passed one after another. -/
lemma pass_of_isPlainSegment {ss : List (List Char)} (hplain : ∀ s ∈ ss, IsPlainSegment s)
    (huncoded : ∀ s ∈ ss, ∀ c ∈ s, isCoded c = false) (t : Trail) :
    (t.pass false ss).passed = t.passed ++ ss := by
  induction ss generalizing t with
  | nil => simp [pass]
  | cons s ss ih =>
    obtain ⟨hs,hss⟩ := List.forall_mem_cons.mp hplain
    obtain ⟨hsu,hssu⟩ := List.forall_mem_cons.mp huncoded
    obtain ⟨hdot,hdots⟩ := isDot_of_isPlainSegment hs
    rw [pass, hdot, hdots, coded_of_uncoded hsu]
    simp [ih hss hssu, push]

end Trail

theorem afterAuthority_of_isKept (h : IsKept cs) :
    afterAuthority true ('/' :: cs) = '/' :: cs := by
  have hbefore : before cs = cs := by
    unfold before
    rw [List.takeWhile_eq_self_iff]
    intro c hc
    have hcoded := h.uncoded c hc
    simp only [isCoded, Bool.or_eq_false_iff] at hcoded
    have hne : ∀ d, "\"#<>?\x60\x7b\x7d".toList.contains d = true → c ≠ d := by
      rintro d hd rfl
      exact Bool.false_ne_true (hcoded.2.symm.trans hd)
    simp [hne '?' (by decide), hne '#' (by decide)]
  have huncoded : ∀ s ∈ Text.split '/' cs, ∀ c ∈ s, isCoded c = false :=
    fun s hs c hc => h.uncoded c (Text.subset_of_mem_split hs hc)
  have hslash : afterSlash true ('/' :: cs) = cs := by
    rfl
  unfold afterAuthority trail Trail.text
  rw [hslash, hbefore, segments_eq_split h.no_backslash,
    Trail.pass_of_isPlainSegment h.segments huncoded]
  exact Text.flatMap_split '/' cs

end Path

lemma visible_of_uncoded {c : Char} (h : Path.isCoded c = false) : 0x20 < c.toNat := by
  simp only [Path.isCoded, Bool.or_eq_false_iff, decide_eq_false_iff_not] at h
  omega

/-- A secure address with a plain name gives back the path that it was made from. -/
theorem parse_of_isKept {name : List Char} {host : Host} (hplain : name.all isPlain = true)
    (hne : name ≠ []) (hhost : Host.ofSpecial name = .ok host) {text : String} {cs : List Char}
    (hkept : Path.IsKept cs) (htext : text.toList = "https://".toList ++ (name ++ '/' :: cs)) :
    parse text = .ok ⟨"https", some host, none, '/' :: cs⟩ := by
  rw [← Path.afterAuthority_of_isKept hkept]
  apply parse_of_cleaned hplain hne hhost
  rw [htext]
  apply cleaned_visible
  simp only [List.forall_mem_append, List.forall_mem_cons]
  exact ⟨by simp,fun c hc => visible_of_isPlain (List.all_eq_true.mp hplain c hc),by decide,
    fun c hc => visible_of_uncoded (hkept.uncoded c hc)⟩

end DeployCheck.Url
