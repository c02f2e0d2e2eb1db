import DeployCheck.Proofs.Bytecode.Evaluation
import DeployCheck.Proofs.Text.HexReading
import Mathlib.Data.List.Forall2

/-! What a verdict says about the bytes of two codes. Pairing by index is a statement about the
streams; the one cut of each code turns it into one about the codes themselves. -/
namespace DeployCheck.Bytecode

open Text

/-- A comparison fails exactly under a real mismatch. -/
theorem isSome_failure_iff (c : Comparison) :
    c.failure?.isSome = true ↔ c.verdict = .realMismatch := by
  unfold Comparison.failure? Comparison.verdict
  cases c.lengthMismatch <;> cases c.realMismatches.isEmpty <;> cases c.literalMismatch <;>
    cases c.immutableMismatches.isEmpty <;> simp

/-- Both codes end in a literal, and the two differ. -/
def LiteralsConflict (actual expected : Trimmed) : Prop :=
  actual.literalText ≠ "" ∧ expected.literalText ≠ "" ∧
    actual.literalText ≠ expected.literalText

/-- Instructions have the same bytes unless the expected one meets an immutable slot. -/
def SameUnlessTolerated (refs : Immutables) (a e : Instruction) : Prop :=
  refs.overlaps e.pc e.length = false → a.raw = e.raw

/-- The actual code can be cut into as many instructions as the expected code has, with the bytes
of the expected ones wherever these meet no immutable slot. -/
def AgreesOutside (refs : Immutables) (actual expected : List UInt8) : Prop :=
  ∃ code, WellCut code ∧ assemble code = actual ∧
    List.Forall₂ (SameUnlessTolerated refs) code (disassemble expected)

lemma forall₂_iff_getElem? {α β : Type} {R : α → β → Prop} {l : List α} {m : List β} :
    List.Forall₂ R l m ↔
      l.length = m.length ∧ ∀ (i : Nat) (a : α) (b : β), l[i]? = some a → m[i]? = some b → R a b := by
  rw [List.forall₂_iff_get]
  refine and_congr_right fun _ => ⟨?_,?_⟩
  · intro h i a b ha hb
    obtain ⟨hi,rfl⟩ := List.getElem?_eq_some_iff.mp ha
    obtain ⟨hj,rfl⟩ := List.getElem?_eq_some_iff.mp hb
    exact h i hi hj
  · intro h i hi hj
    exact h i _ _ (List.getElem?_eq_getElem hi) (List.getElem?_eq_getElem hj)

lemma forall₂_of_map_raw_eq {refs : Immutables} {code other expected : List Instruction}
    (hraw : code.map Instruction.raw = other.map Instruction.raw)
    (h : List.Forall₂ (SameUnlessTolerated refs) code expected) :
    List.Forall₂ (SameUnlessTolerated refs) other expected := by
  induction h generalizing other with
  | nil =>
    obtain rfl : other = [] := by simpa using hraw
    exact .nil
  | cons hhead _ ih =>
    obtain ⟨i,rest,rfl,hi,hrest⟩ := List.map_eq_cons_iff.mp hraw.symm
    exact .cons (fun hover => hi.trans (hhead hover)) (ih hrest.symm)

/-- Whichever cut is meant, it has the bytes of the disassembled one. -/
theorem agreesOutside_iff (refs : Immutables) (actual expected : List UInt8) :
    AgreesOutside refs actual expected ↔
      List.Forall₂ (SameUnlessTolerated refs) (disassemble actual) (disassemble expected) := by
  constructor
  · rintro ⟨code,hcut,rfl,h⟩
    exact forall₂_of_map_raw_eq (map_raw_disassemble hcut).symm h
  · intro h
    exact ⟨_,wellCut_disassemble actual,assemble_disassemble actual,h⟩

/-- Codes are the same bytes exactly if their streams are as long and differ nowhere. -/
theorem code_eq_iff_mismatches (p q : List UInt8) :
    p = q ↔ mismatches (disassemble p) (disassemble q) = [] ∧
      (disassemble p).length = (disassemble q).length := by
  have hsame : p = q ↔
      List.Forall₂ (fun a e => a.raw = e.raw) (disassemble p) (disassemble q) := by
    rw [← map_raw_disassemble_eq_iff, ← List.forall₂_eq_eq_eq, List.forall₂_map_left_iff,
      List.forall₂_map_right_iff]
  rw [hsame, forall₂_iff_getElem?, and_comm, List.eq_nil_iff_forall_not_mem]
  refine and_congr_left fun _ => ⟨?_,?_⟩
  · intro h i hi
    obtain ⟨a,e,ha,he,hne⟩ := (mem_mismatches_iff _ _ _).mp hi
    exact hne (h i a e ha he)
  · intro h i a e ha he
    by_contra hne
    exact h i ((mem_mismatches_iff _ _ _).mpr ⟨a,e,ha,he,hne⟩)

section Fields

variable (refs : Immutables) (actual expected : Trimmed) (diff : Option (List Row))

lemma literalMismatch_comparisonOf :
    (comparisonOf refs actual expected diff).literalMismatch = true ↔
      LiteralsConflict actual expected := by
  simp [Comparison.literalMismatch, comparisonOf, LiteralsConflict, and_assoc]

/-- No difference counts exactly where the codes agree outside the slots. -/
theorem agreesOutside_iff_comparisonOf :
    AgreesOutside refs actual.code expected.code ↔
      (comparisonOf refs actual expected diff).lengthMismatch = false ∧
        (comparisonOf refs actual expected diff).realMismatches = [] := by
  rw [agreesOutside_iff, forall₂_iff_getElem?]
  simp only [Comparison.lengthMismatch, comparisonOf, bne_eq_false_iff_eq,
    List.filter_eq_nil_iff, mem_mismatches_iff, Bool.not_eq_true', Bool.not_eq_false]
  refine and_congr_right fun _ => ⟨?_,?_⟩
  · rintro h i ⟨a,e,ha,he,hne⟩
    rw [isTolerated_iff]
    refine ⟨e,he,?_⟩
    by_contra hover
    exact hne (h i a e ha he (by simpa using hover))
  · intro h i a e ha he hover
    by_contra hne
    obtain ⟨e',he',hover'⟩ := (isTolerated_iff _ _ _).mp (h i ⟨a,e,ha,he,hne⟩)
    rw [he] at he'
    cases he'
    simp [hover] at hover'

/-- No instructions differ exactly where the codes are the same bytes. -/
theorem code_eq_iff_comparisonOf :
    actual.code = expected.code ↔
      (comparisonOf refs actual expected diff).lengthMismatch = false ∧
        (comparisonOf refs actual expected diff).realMismatches = [] ∧
        (comparisonOf refs actual expected diff).immutableMismatches = [] := by
  rw [code_eq_iff_mismatches, and_comm]
  simp only [Comparison.lengthMismatch, comparisonOf, bne_eq_false_iff_eq]
  refine and_congr_right fun _ => ?_
  rw [List.filter_eq_nil_iff, List.filter_eq_nil_iff, List.eq_nil_iff_forall_not_mem]
  constructor
  · intro hnone
    exact ⟨fun i hi => absurd hi (hnone i),fun i hi => absurd hi (hnone i)⟩
  · rintro ⟨hreal,htol⟩ i hi
    have := hreal i hi
    have := htol i hi
    simp_all

/-- The codes are the same bytes, and no literals conflict. -/
def Matches : Prop := actual.code = expected.code ∧ ¬LiteralsConflict actual expected

/-- The codes differ, but nowhere outside the instructions that meet a slot, and no literals
conflict. -/
def MatchesOutside : Prop :=
  ¬LiteralsConflict actual expected ∧ actual.code ≠ expected.code ∧
    AgreesOutside refs actual.code expected.code

theorem verdict_eq_fullMatch_iff :
    (comparisonOf refs actual expected diff).verdict = .fullMatch ↔ Matches actual expected := by
  rw [Matches, code_eq_iff_comparisonOf refs actual expected diff,
    ← literalMismatch_comparisonOf refs actual expected diff, Comparison.verdict]
  generalize comparisonOf refs actual expected diff = c
  cases c.lengthMismatch <;> cases c.literalMismatch <;> cases c.realMismatches <;>
    cases c.immutableMismatches <;> simp

theorem verdict_eq_immutableOnly_iff :
    (comparisonOf refs actual expected diff).verdict = .immutableOnly ↔
      MatchesOutside refs actual expected := by
  rw [MatchesOutside, Ne, code_eq_iff_comparisonOf refs actual expected diff,
    agreesOutside_iff_comparisonOf refs actual expected diff,
    ← literalMismatch_comparisonOf refs actual expected diff, Comparison.verdict]
  generalize comparisonOf refs actual expected diff = c
  cases c.lengthMismatch <;> cases c.literalMismatch <;> cases c.realMismatches <;>
    cases c.immutableMismatches <;> simp

end Fields

/-- The verdict on two readable codes, in terms of the bytes that trimming leaves. -/
theorem verdict_iff_bytes (context : Nat) (refs : Immutables) {actual expected : String}
    {da de : List Char} (ha : Hex.normalize actual.toList = .ok da)
    (he : Hex.normalize expected.toList = .ok de) :
    ∃ p q c, Hex.read actual = .ok p ∧ Hex.read expected = .ok q ∧
      evaluate context refs actual expected = .ok c ∧
      (c.verdict = .fullMatch ↔ Matches (trim p) (trim q)) ∧
      (c.verdict = .immutableOnly ↔ MatchesOutside refs (trim p) (trim q)) ∧
      (c.verdict = .realMismatch ↔
        ¬Matches (trim p) (trim q) ∧ ¬MatchesOutside refs (trim p) (trim q)) ∧
      (c.failure?.isSome = true ↔ c.verdict = .realMismatch) := by
  obtain ⟨p,hp,-⟩ := Hex.exists_read_of_normalize ha
  obtain ⟨q,hq,-⟩ := Hex.exists_read_of_normalize he
  obtain ⟨diff,hc⟩ := exists_evaluate context refs hp hq
  have hfull := verdict_eq_fullMatch_iff refs (trim p) (trim q) diff
  have honly := verdict_eq_immutableOnly_iff refs (trim p) (trim q) diff
  refine ⟨p,q,_,hp,hq,hc,hfull,honly,?_,isSome_failure_iff _⟩
  rw [← hfull, ← honly]
  cases (comparisonOf refs (trim p) (trim q) diff).verdict <;> simp

/-- A cut-short push at the end of code whose first push is filled in. -/
theorem verdict_iff_bytes_truncated :
    Hex.normalize "0x6001fe61aa".toList = .ok "6001fe61aa".toList ∧
      Hex.normalize "60 02 FE 61 AA".toList = .ok "6002fe61aa".toList ∧
      ∃ p q c, Hex.read "0x6001fe61aa" = .ok p ∧ Hex.read "60 02 FE 61 AA" = .ok q ∧
        evaluate 3 [(1,1)] "0x6001fe61aa" "60 02 FE 61 AA" = .ok c ∧
        (c.verdict = .fullMatch ↔ Matches (trim p) (trim q)) ∧
        (c.verdict = .immutableOnly ↔ MatchesOutside [(1,1)] (trim p) (trim q)) ∧
        (c.verdict = .realMismatch ↔
          ¬Matches (trim p) (trim q) ∧ ¬MatchesOutside [(1,1)] (trim p) (trim q)) ∧
        (c.failure?.isSome = true ↔ c.verdict = .realMismatch) :=
  ⟨rfl,rfl,verdict_iff_bytes 3 [(1,1)]
    (rfl : _ = Except.ok "6001fe61aa".toList) (rfl : _ = Except.ok "6002fe61aa".toList)⟩

end DeployCheck.Bytecode
