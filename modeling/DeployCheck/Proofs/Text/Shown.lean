import DeployCheck.Bytecode.Comparison
import DeployCheck.Proofs.Text.Numerals
import DeployCheck.Text.Terminal

/-! Texts that a terminal is given as they are. Quoting already writes the controls of a text by
their codes, so the messages of comparisons need no further care. -/
namespace DeployCheck.Text.Terminal

/-- No character of the text has to be written by its code. -/
def Shown (s : String) : Prop := ∀ c ∈ s.toList, escape c = [c]

instance (s : String) : Decidable (Shown s) := List.decidableBAll _ s.toList

theorem text_eq_self {s : String} (h : Shown s) : text s = s := by
  have hchars : s.toList.flatMap escape = s.toList := by
    rw [List.flatMap_def, List.map_congr_left h, ← List.flatMap_def, List.flatMap_singleton']
  rw [text, hchars, String.ofList_toList]

lemma Shown.append {s t : String} (hs : Shown s) (ht : Shown t) : Shown (s ++ t) := by
  unfold Shown
  rw [String.toList_append, List.forall_mem_append]
  exact ⟨hs,ht⟩

lemma escape_of_visible {c : Char}
    (h : 0x20 ≤ c.toNat ∧ c.toNat < 0x7f ∨ 0xa0 ≤ c.toNat) : escape c = [c] := by
  have hcommand : isCommand c = false := by
    rw [isCommand, List.contains_eq_mem, decide_eq_false_iff_not]
    intro hmem
    have hcontrol : c = '\x07' ∨ c = '\x08' ∨ c = '\x0c' ∨ c = '\x1b' ∨ c = '\x7f' := by
      simpa using hmem
    rcases hcontrol with rfl | rfl | rfl | rfl | rfl <;> exact absurd h (by decide)
  have hhigh : isHighControl c = false := by
    simp only [isHighControl, Bool.and_eq_false_iff, decide_eq_false_iff_not]
    omega
  simp [escape, hcommand, hhigh]

/-! ## Quoted texts and numbers -/

/-- The classes change at the space, at the controls that end ASCII and behind the high ones. -/
lemma visible_of_isGraphic {c : Char} (h : isGraphic c = true) :
    0x20 ≤ c.toNat ∧ c.toNat < 0x7f ∨ 0xa0 ≤ c.toNat := by
  have hbounds : graphicBounds = 0x20 :: 0x7f :: 0xa1 :: graphicBounds.drop 3 := rfl
  by_contra hnot
  have hhigh : ¬0xa1 ≤ c.toNat := by omega
  rw [isGraphic, hbounds] at h
  by_cases hspace : 0x20 ≤ c.toNat
  · have hdelete : 0x7f ≤ c.toNat := by omega
    simp [hspace, hdelete, hhigh] at h
  · simp [hspace] at h

lemma escape_of_mem_hexDigits {width n : Nat} {c : Char} (h : c ∈ (hexDigits width n).toList) :
    escape c = [c] := by
  have hall : ∀ d < 16, escape d.digitChar = [d.digitChar] := by decide
  rw [hexDigits, String.toList_ofList, List.mem_append] at h
  rcases h with h | h
  · rw [List.eq_of_mem_replicate h]
    decide
  · exact forall_mem_toDigits (p := fun c => escape c = [c]) (by omega) hall n c h

lemma escape_of_mem_quoted {quote c d : Char} (hquote : escape quote = [quote])
    (h : d ∈ Quoted.escape quote c) : escape d = [d] := by
  have hback : escape '\\' = ['\\'] := by decide
  unfold Quoted.escape at h
  split_ifs at h with hnul htab hreturn hbreak hquoted hgraphic
  all_goals simp only [List.mem_append, List.mem_cons, List.not_mem_nil, or_false] at h
  · rcases h with rfl | rfl <;> decide
  · rcases h with rfl | rfl <;> decide
  · rcases h with rfl | rfl <;> decide
  · rcases h with rfl | rfl <;> decide
  · rcases h with rfl | rfl
    · exact hback
    · rcases hquoted with rfl | rfl
      · exact hquote
      · exact hback
  · rw [h]
    exact escape_of_visible (visible_of_isGraphic hgraphic)
  · rcases h with ((rfl | rfl | rfl) | h) | rfl
    · decide
    · decide
    · decide
    · exact escape_of_mem_hexDigits h
    · decide

lemma shown_between {quote : Char} (hquote : escape quote = [quote]) {inside : List Char}
    (h : ∀ c ∈ inside, escape c = [c]) : Shown (String.ofList (quote :: inside ++ [quote])) := by
  unfold Shown
  rw [String.toList_ofList, List.forall_mem_append, List.forall_mem_cons, List.forall_mem_singleton]
  exact ⟨⟨hquote,h⟩,hquote⟩

lemma shown_quoted (s : String) : Shown (Quoted.text s) := by
  have hquote : escape '"' = ['"'] := by decide
  refine shown_between hquote fun c hc => ?_
  obtain ⟨d,-,hd⟩ := List.mem_flatMap.mp hc
  exact escape_of_mem_quoted hquote hd

lemma shown_quoted_char (c : Char) : Shown (Quoted.char c) := by
  have hquote : escape '\'' = ['\''] := by decide
  exact shown_between hquote fun d hd => escape_of_mem_quoted hquote hd

lemma shown_toString (n : Nat) : Shown (toString n) := by
  have hall : ∀ d < 10, escape d.digitChar = [d.digitChar] := by decide
  intro c hc
  exact forall_mem_toDigits (p := fun c => escape c = [c]) (by omega) hall n c (by simpa using hc)

/-! ## Messages of comparisons -/

lemma shown_hexError (e : Hex.Error) : Shown e.message := by
  cases e with
  | invalidCharacter c position =>
    have hlead : Shown "Invalid character " := by decide +kernel
    have hat : Shown " at position " := by decide +kernel
    exact ((hlead.append (shown_quoted_char c)).append hat).append (shown_toString position)
  | oddLength =>
    have hodd : Shown "Odd number of digits" := by decide +kernel
    exact hodd

theorem shown_compareError (e : Bytecode.CompareError) : Shown e.message := by
  cases e with
  | differentLength a e =>
    have hlead : Shown "bytecodes have different length: " := by decide +kernel
    have hversus : Shown " vs " := by decide +kernel
    have hcount : Shown " instructions" := by decide +kernel
    exact (((hlead.append (shown_toString a)).append hversus).append (shown_toString e)).append
      hcount
  | notOnImmutable n =>
    have hlead : Shown "bytecodes have differences not on the immutable reference position (" := by
      decide +kernel
    have hcount : Shown " instructions)" := by decide +kernel
    exact (hlead.append (shown_toString n)).append hcount
  | literalMismatch a e =>
    have hlead : Shown "string literal mismatch: " := by decide +kernel
    have hother : Shown " != " := by decide +kernel
    exact ((hlead.append (shown_quoted a)).append hother).append (shown_quoted e)
  | invalidDifference i =>
    have hlead : Shown "Invalid bytecode difference data at index " := by decide +kernel
    exact hlead.append (shown_toString i)
  | decode e =>
    have hlead : Shown "decode error: " := by decide +kernel
    have hcause : Shown "hex decode failed: " := by decide +kernel
    exact hlead.append (hcause.append (shown_hexError e))

end DeployCheck.Text.Terminal
