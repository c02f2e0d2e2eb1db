import DeployCheck.Proofs.Bytecode.Trimming
import DeployCheck.Proofs.Bytecode.Verdict

/-! What a full match says about the bytes before the metadata. Literals are compared only where
both codes end in one, so a literal on one side alone stays unseen. -/
namespace DeployCheck.Bytecode

open Text

lemma literalsConflict_iff (t u : Trimmed) :
    LiteralsConflict t u ↔ t.literal ≠ [] ∧ u.literal ≠ [] ∧ t.literal ≠ u.literal := by
  simp only [LiteralsConflict, Ne, Trimmed.literalText_eq_empty_iff, Trimmed.literalText_eq_iff]

/-- Matching codes continue alike unless just one of them has a literal. -/
theorem body_eq_iff_of_matches {t u : Trimmed} (h : Matches t u) :
    t.body = u.body ↔ (t.literal = [] ↔ u.literal = []) := by
  obtain ⟨hcode,hlit⟩ := h
  rw [literalsConflict_iff] at hlit
  unfold Trimmed.body
  rw [hcode, List.append_cancel_left_eq]
  constructor
  · intro heq
    rw [heq]
  · intro hiff
    by_contra hne
    by_cases hu : u.literal = []
    · exact hne ((hiff.mpr hu).trans hu.symm)
    · exact hlit ⟨fun ht => hu (hiff.mp ht),hu,hne⟩

/-- A full match means the same code. The bytes before the metadata are the same too, except where
one side alone has a literal behind the guard that ends the common code. -/
theorem body_of_fullMatch {context : Nat} {refs : Immutables} {actual expected : String}
    {c : Comparison} (h : evaluate context refs actual expected = .ok c)
    (hfull : c.verdict = .fullMatch) :
    ∃ p q, Hex.read actual = .ok p ∧ Hex.read expected = .ok q ∧
      (trim p).code = (trim q).code ∧
      ((trim p).body = (trim q).body ↔ ((trim p).literal = [] ↔ (trim q).literal = [])) ∧
      ((trim p).body ≠ (trim q).body → guard <:+ (trim p).code) := by
  obtain ⟨p,q,diff,hp,hq,rfl⟩ := eq_comparisonOf_of_evaluate h
  have hmatch := (verdict_eq_fullMatch_iff _ _ _ _).mp hfull
  have hbody := body_eq_iff_of_matches hmatch
  refine ⟨p,q,hp,hq,hmatch.1,hbody,?_⟩
  intro hne
  by_cases hlit : (trim p).literal = []
  · have hother : (trim q).literal ≠ [] := fun hq => hne (hbody.mpr (by simp [hlit, hq]))
    rw [hmatch.1]
    exact guard_suffix_of_literal hother
  · exact guard_suffix_of_literal hlit

/-- The same literal in front of different metadata. -/
theorem body_of_fullMatch_same_literal :
    ∃ c, evaluate 3 [] "0x5b5056fe61a10001" "0x5b5056fe61a20001" = .ok c ∧
      c.verdict = .fullMatch ∧
      ∃ p q, Hex.read "0x5b5056fe61a10001" = .ok p ∧ Hex.read "0x5b5056fe61a20001" = .ok q ∧
        (trim p).code = (trim q).code ∧
        ((trim p).body = (trim q).body ↔ ((trim p).literal = [] ↔ (trim q).literal = [])) ∧
        ((trim p).body ≠ (trim q).body → guard <:+ (trim p).code) := by
  have hp : Hex.read "0x5b5056fe61a10001" = .ok [0x5b,0x50,0x56,0xfe,0x61,0xa1,0,1] := rfl
  have hq : Hex.read "0x5b5056fe61a20001" = .ok [0x5b,0x50,0x56,0xfe,0x61,0xa2,0,1] := rfl
  obtain ⟨diff,hc⟩ := exists_evaluate 3 [] hp hq
  have hmatch : Matches (trim [0x5b,0x50,0x56,0xfe,0x61,0xa1,0,1])
      (trim [0x5b,0x50,0x56,0xfe,0x61,0xa2,0,1]) :=
    ⟨by decide,by rw [literalsConflict_iff]; decide⟩
  have hfull := (verdict_eq_fullMatch_iff [] _ _ diff).mpr hmatch
  exact ⟨_,hc,hfull,body_of_fullMatch hc hfull⟩

/-- A literal that the expected code lacks does not keep two codes from matching. -/
theorem fullMatch_hides_literal :
    ∃ c p q, evaluate 3 [] "0x5b5056fe610000" "0x5b5056fe0000" = .ok c ∧
      c.verdict = .fullMatch ∧ Hex.read "0x5b5056fe610000" = .ok p ∧
      Hex.read "0x5b5056fe0000" = .ok q ∧ (trim p).body ≠ (trim q).body := by
  have hp : Hex.read "0x5b5056fe610000" = .ok [0x5b,0x50,0x56,0xfe,0x61,0,0] := rfl
  have hq : Hex.read "0x5b5056fe0000" = .ok [0x5b,0x50,0x56,0xfe,0,0] := rfl
  obtain ⟨diff,hc⟩ := exists_evaluate 3 [] hp hq
  refine ⟨_,_,_,hc,?_,hp,hq,by decide⟩
  exact (verdict_eq_fullMatch_iff _ _ _ _).mpr ⟨by decide,by rw [literalsConflict_iff]; decide⟩

end DeployCheck.Bytecode
