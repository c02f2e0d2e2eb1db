import DeployCheck.LineDiff.Page
import Mathlib.Data.List.Basic

/-! A text with its entities: it holds no character of markup, and the text that was escaped is read
back from it. -/
namespace DeployCheck.LineDiff.Page

/-- The texts that characters of markup are written as. -/
def entities : List (List Char) :=
  ["&amp;".toList, "&lt;".toList, "&gt;".toList, "&quot;".toList]

/-- A text that means nothing to a reader of markup but the characters that its entities stand
for. -/
structure IsInert (cs : List Char) : Prop where
  no_open : '<' ∉ cs
  no_close : '>' ∉ cs
  no_quote : '"' ∉ cs
  entity : ∀ front rest, cs = front ++ '&' :: rest → ∃ e ∈ entities, e <+: '&' :: rest

/-- Reads entities as the characters that they stand for. -/
def unescape : List Char → List Char
  | '&' :: 'a' :: 'm' :: 'p' :: ';' :: rest => '&' :: unescape rest
  | '&' :: 'l' :: 't' :: ';' :: rest => '<' :: unescape rest
  | '&' :: 'g' :: 't' :: ';' :: rest => '>' :: unescape rest
  | '&' :: 'q' :: 'u' :: 'o' :: 't' :: ';' :: rest => '"' :: unescape rest
  | c :: rest => c :: unescape rest
  | [] => []

lemma isInert_nil : IsInert [] := by
  refine ⟨by simp,by simp,by simp,fun front rest h => ?_⟩
  exact absurd h.symm (by simp)

lemma IsInert.append {cs ds : List Char} (hcs : IsInert cs) (hds : IsInert ds) :
    IsInert (cs ++ ds) where
  no_open := by simp [hcs.no_open, hds.no_open]
  no_close := by simp [hcs.no_close, hds.no_close]
  no_quote := by simp [hcs.no_quote, hds.no_quote]
  entity front rest h := by
    rcases List.append_eq_append_iff.mp h with ⟨more,rfl,hmore⟩ | ⟨more,hmore,hrest⟩
    · exact hds.entity more rest hmore
    · cases more with
      | nil => exact hds.entity [] rest hrest.symm
      | cons c more =>
        obtain ⟨rfl,rfl⟩ := List.cons.inj hrest
        obtain ⟨e,he,hstart⟩ := hcs.entity front more hmore
        exact ⟨e,he,hstart.trans (List.prefix_append _ _)⟩

lemma isInert_of_mem_entities {e : List Char} (h : e ∈ entities) : IsInert e := by
  have hinside : ∀ e ∈ entities, e.head? = some '&' ∧ '&' ∉ e.tail ∧ '<' ∉ e ∧ '>' ∉ e ∧
      '"' ∉ e := by decide
  obtain ⟨hhead,htail,hopen,hclose,hquote⟩ := hinside e h
  refine ⟨hopen,hclose,hquote,fun front rest heq => ⟨e,h,?_⟩⟩
  cases front with
  | nil => exact heq ▸ List.prefix_rfl
  | cons c front => exact absurd (by simp [heq]) htail

/-- A character is written as itself or as an entity, and is read back either way. -/
lemma escapeChar_cases (c : Char) :
    IsInert (escapeChar c) ∧ ∀ rest, unescape (escapeChar c ++ rest) = c :: unescape rest := by
  unfold escapeChar
  split
  case h_5 hamp hopen hclose hquote =>
    refine ⟨⟨?_,?_,?_,?_⟩,fun rest => ?_⟩
    · simpa using Ne.symm hopen
    · simpa using Ne.symm hclose
    · simpa using Ne.symm hquote
    · intro front rest heq
      have hmem : '&' ∈ [c] := by simp [heq]
      exact absurd (List.mem_singleton.mp hmem).symm hamp
    · rw [List.singleton_append, unescape] <;> rintro _ rfl <;> exact absurd rfl hamp
  all_goals exact ⟨isInert_of_mem_entities (by decide),fun _ => rfl⟩

theorem isInert_escape (cs : List Char) : IsInert (escape cs) := by
  induction cs with
  | nil => exact isInert_nil
  | cons c cs ih => exact (escapeChar_cases c).1.append ih

/-- A text is read back from its escaped form. -/
theorem unescape_escape (cs : List Char) : unescape (escape cs) = cs := by
  induction cs with
  | nil => rfl
  | cons c cs ih =>
    change unescape (escapeChar c ++ escape cs) = _
    rw [(escapeChar_cases c).2, ih]

lemma toList_escapeText (s : String) : (escapeText s).toList = escape s.toList :=
  String.toList_ofList

end DeployCheck.LineDiff.Page
