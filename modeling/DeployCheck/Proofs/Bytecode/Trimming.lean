import DeployCheck.Bytecode.Trimmed
import DeployCheck.Proofs.Text.Encoded
import Mathlib.Tactic.Common

/-! Trimming takes code apart without loss: a split-off literal follows the guard that ends the
code, and the metadata follows both. -/
namespace DeployCheck.Bytecode

lemma guard_append_of_isPrefixOf {bytes : List UInt8} (h : guard.isPrefixOf bytes = true) :
    guard ++ bytes.drop 4 = bytes := by
  obtain ⟨rest,rfl⟩ := List.isPrefixOf_iff_prefix.mp h
  rfl

/-- The guard ends what stands before the cut. -/
theorem splitAtGuard_eq_some {bytes code literal : List UInt8}
    (h : splitAtGuard bytes = some (code,literal)) :
    code ++ literal = bytes ∧ guard <:+ code := by
  induction bytes generalizing code with
  | nil => simp [splitAtGuard] at h
  | cons b rest ih =>
    unfold splitAtGuard at h
    split at h
    · next code' literal' hrest =>
      cases h
      obtain ⟨rfl,hguard⟩ := ih hrest
      exact ⟨rfl,hguard.trans (List.suffix_cons _ _)⟩
    · split at h
      · next hprefix =>
        cases h
        exact ⟨guard_append_of_isPrefixOf hprefix,List.suffix_refl _⟩
      · simp at h

lemma splitLiteral_append (bytes : List UInt8) :
    (splitLiteral bytes).1 ++ (splitLiteral bytes).2 = bytes := by
  unfold splitLiteral
  split
  · next code literal h =>
    split
    · exact (splitAtGuard_eq_some h).1
    · simp
  · simp

lemma guard_suffix_splitLiteral {bytes : List UInt8} (h : (splitLiteral bytes).2 ≠ []) :
    guard <:+ (splitLiteral bytes).1 := by
  unfold splitLiteral at h ⊢
  split
  · next code literal hsplit =>
    rw [hsplit] at h
    simp only at h
    split
    · exact (splitAtGuard_eq_some hsplit).2
    · next hnot => simp [hnot] at h
  · next hnone => simp [hnone] at h

namespace Trimmed

/-- The bytes before the metadata. -/
def body (t : Trimmed) : List UInt8 := t.code ++ t.literal

/-- A literal is known from its text. -/
theorem literalText_eq_iff (t u : Trimmed) : t.literalText = u.literalText ↔ t.literal = u.literal := by
  unfold literalText
  rw [String.ofList_inj]
  exact (List.map_injective_iff.mpr Text.charOfByte_injective).eq_iff

theorem literalText_eq_empty_iff (t : Trimmed) : t.literalText = "" ↔ t.literal = [] :=
  literalText_eq_iff t ⟨[],[],[]⟩

end Trimmed

/-- Trimming loses nothing. -/
theorem reassemble_trim (bytes : List UInt8) : (trim bytes).reassemble = bytes := by
  unfold trim
  split
  · simp [Trimmed.reassemble]
  · next size _ =>
    change (splitLiteral _).1 ++ (splitLiteral _).2 ++ _ = bytes
    rw [splitLiteral_append, List.take_append_drop]

/-- Code ends with the guard where a literal was split off. -/
theorem guard_suffix_of_literal {bytes : List UInt8} (h : (trim bytes).literal ≠ []) :
    guard <:+ (trim bytes).code := by
  unfold trim at h ⊢
  split
  · next hnone => simp [hnone] at h
  · next size hsize =>
    rw [hsize] at h
    exact guard_suffix_splitLiteral h

end DeployCheck.Bytecode
