import DeployCheck.Proofs.Bytecode.RowLines
import DeployCheck.Proofs.Bytecode.Verdict
import DeployCheck.Proofs.Result

/-! The listing of differences shows the comparison it stands in. The marker of a row and the
mismatch lists are found apart from each other, from the same two instructions. -/
namespace DeployCheck.Bytecode

open Text

section Markers

variable {i : Nat} {x y : Option Instruction} {tolerated : Bool} {row : Row}

lemma index_of_classify (h : Row.classify? i x y tolerated = some row) : row.index = i := by
  cases x <;> cases y <;> simp only [Row.classify?, reduceCtorEq, Option.some.injEq] at h <;>
    exact h ▸ rfl

/-- What the marker of a row says of the two sides it was made from. -/
lemma marker_eq_iff_of_classify (h : Row.classify? i x y tolerated = some row) :
    (row.marker = '!' ↔ (∃ a e, x = some a ∧ y = some e ∧ a.raw ≠ e.raw) ∧ tolerated = false) ∧
    (row.marker = '~' ↔ (∃ a e, x = some a ∧ y = some e ∧ a.raw ≠ e.raw) ∧ tolerated = true) ∧
    (row.marker = '+' ↔ x ≠ none ∧ y = none) ∧ (row.marker = '-' ↔ x = none ∧ y ≠ none) := by
  cases x with
  | none =>
    cases y with
    | none => cases h
    | some e =>
      cases h
      simp [Row.marker]
  | some a =>
    cases y with
    | none =>
      cases h
      simp [Row.marker]
    | some e =>
      cases h
      have hsame := Instruction.sameBytes_iff (i := a) (j := e)
      cases hbytes : a.sameBytes e <;> cases tolerated <;> simp_all [Row.marker]

end Markers

lemma rowsAt_eq_ok_iff {actual expected : List Instruction} {tolerated indices : List Nat}
    {rows : List Row} : rowsAt actual expected tolerated indices = .ok rows ↔
      List.Forall₂ (fun i row => Row.classify? i actual[i]? expected[i]? (tolerated.contains i) =
        some row) indices rows := by
  rw [rowsAt, Result.mapM_eq_ok_iff]
  constructor <;> refine List.Forall₂.imp fun i row h => ?_
  · split at h <;> simp_all
  · rw [h]

/-- The rows stand at the indices asked for, and each one classifies its own. -/
lemma classify_of_rowsAt {actual expected : List Instruction} {tolerated indices : List Nat}
    {rows : List Row} (h : rowsAt actual expected tolerated indices = .ok rows) :
    rows.map Row.index = indices ∧ ∀ row ∈ rows,
      Row.classify? row.index actual[row.index]? expected[row.index]?
        (tolerated.contains row.index) = some row := by
  induction rowsAt_eq_ok_iff.mp h with
  | nil => simp
  | cons hrow hrest ih =>
    obtain rfl := index_of_classify hrow
    obtain ⟨hindices,hall⟩ := ih (rowsAt_eq_ok_iff.mpr hrest)
    exact ⟨by rw [List.map_cons, hindices],List.forall_mem_cons.mpr ⟨hrow,hall⟩⟩

/-- What holds of the rows with a marker holds of the lines with it. -/
lemma forall_starting {marker : Char} (hmarker : marker ≠ 'L' ∧ marker ≠ '.') {rows : List Row}
    {P : Nat → Prop} (h : ∀ row ∈ rows, row.marker = marker → P row.index) :
    ∀ line ∈ starting marker (linesOf (renderRows false rows)),
      ∃ i, Shows marker i line ∧ P i := by
  rw [starting_linesOf hmarker]
  simp only [List.forall_mem_map, List.mem_filter, beq_iff_eq]
  rintro row ⟨hrow,hown⟩
  exact ⟨row.index,hown ▸ row.shows_line.append "\n",h row hrow hown⟩

/-- Mismatches that are all shown, under a marker of their own, are the indices of the lines with
that marker. -/
lemma forall₂_starting {marker : Char} (hmarker : marker ≠ 'L' ∧ marker ≠ '.') {rows : List Row}
    {ms : List Nat} (hrows : (rows.map Row.index).Pairwise (· < ·)) (hms : ms.Pairwise (· < ·))
    (hshown : ∀ m ∈ ms, m ∈ rows.map Row.index)
    (hmark : ∀ row ∈ rows, row.marker = marker ↔ row.index ∈ ms) :
    List.Forall₂ (Shows marker) ms (starting marker (linesOf (renderRows false rows))) := by
  have hindices : (rows.filter fun row => row.marker == marker).map Row.index = ms := by
    refine List.Pairwise.eq_of_mem_iff (hrows.sublist (List.filter_sublist.map _)) hms fun m => ?_
    simp only [List.mem_map, List.mem_filter, beq_iff_eq]
    constructor
    · rintro ⟨row,⟨hrow,hown⟩,rfl⟩
      exact (hmark row hrow).mp hown
    · intro hm
      obtain ⟨row,hrow,rfl⟩ := List.mem_map.mp (hshown m hm)
      exact ⟨row,⟨hrow,(hmark row hrow).mpr hm⟩,rfl⟩
  rw [starting_linesOf hmarker, ← hindices, List.forall₂_map_left_iff, List.forall₂_map_right_iff,
    List.forall₂_same]
  intro row hrow
  have hown : row.marker = marker := by simpa using (List.mem_filter.mp hrow).2
  exact hown ▸ row.shows_line.append "\n"

/-- What a comparison says of two streams: their lengths, and the paired indices with different
instructions, each in one of two ascending lists. -/
structure Comparison.Describes (c : Comparison) (actual expected : List Instruction) : Prop where
  actualLength : c.actualLength = actual.length
  expectedLength : c.expectedLength = expected.length
  ascending_real : c.realMismatches.Pairwise (· < ·)
  ascending_immutable : c.immutableMismatches.Pairwise (· < ·)
  disjoint : c.realMismatches.Disjoint c.immutableMismatches
  differs : ∀ i, i ∈ c.realMismatches ∨ i ∈ c.immutableMismatches ↔
    ∃ a e, actual[i]? = some a ∧ expected[i]? = some e ∧ a.raw ≠ e.raw

/-- How a plain text pictures a comparison: the legend, and below it lines for the indices shown.
Each mismatch has one line under its marker, and the longer stream has its own marker past the end
of the other. -/
structure Comparison.Pictured (c : Comparison) (shown : List Nat) (plain : String) : Prop where
  spaced : ∃ below, linesOf plain = (legend false ++ "\n") :: below ∧ Spaced 0 shown below
  first : 0 ∈ shown
  actual_end : 0 < c.actualLength → c.actualLength - 1 ∈ shown
  expected_end : 0 < c.expectedLength → c.expectedLength - 1 ∈ shown
  real : List.Forall₂ (Shows '!') c.realMismatches (starting '!' (linesOf plain))
  immutable : List.Forall₂ (Shows '~') c.immutableMismatches (starting '~' (linesOf plain))
  surplus : ∀ line ∈ starting '+' (linesOf plain),
    ∃ i, Shows '+' i line ∧ c.expectedLength ≤ i ∧ i < c.actualLength
  missing : ∀ line ∈ starting '-' (linesOf plain),
    ∃ i, Shows '-' i line ∧ c.actualLength ≤ i ∧ i < c.expectedLength

lemma describes_comparisonOf (refs : Immutables) (actual expected : Trimmed)
    (diff : Option (List Row)) : (comparisonOf refs actual expected diff).Describes
      (disassemble actual.code) (disassemble expected.code) where
  actualLength := rfl
  expectedLength := rfl
  ascending_real := (ascending_mismatches _ _).filter _
  ascending_immutable := (ascending_mismatches _ _).filter _
  disjoint := by
    intro i hreal htol
    simp only [comparisonOf, List.mem_filter] at hreal htol
    simp [htol.2] at hreal
  differs := by
    intro i
    rw [← mem_mismatches_iff]
    simp only [comparisonOf, List.mem_filter]
    cases isTolerated refs (disassemble expected.code) i <;> simp

/-- The rows of a comparison picture it. -/
theorem Comparison.Describes.pictured {c : Comparison} {actual expected : List Instruction}
    (hc : c.Describes actual expected) {context : Nat} {rows : List Row}
    (hrows : rowsAt actual expected c.immutableMismatches (displayIndices
      (mismatches actual expected) actual.length expected.length context) = .ok rows) :
    c.Pictured (rows.map Row.index) (renderRows false rows) := by
  obtain ⟨hindices,hclass⟩ := classify_of_rowsAt hrows
  have hasc : (rows.map Row.index).Pairwise (· < ·) :=
    hindices ▸ ascending_displayIndices _ _ _ _
  have hmark := fun row hrow => marker_eq_iff_of_classify (hclass row hrow)
  have hshown : ∀ i ∈ checkpoints (mismatches actual expected) actual.length expected.length,
      i ∈ rows.map Row.index := fun i hi =>
    hindices ▸ (mem_displayIndices_iff _ _ _ _ _).mpr (.inl hi)
  simp only [mem_checkpoints, mem_mismatches_iff, ← hc.differs, ← hc.actualLength,
    ← hc.expectedLength] at hshown
  refine {
    spaced := ⟨_,linesOf_renderRows rows,spaced_body hasc (by simp)⟩
    first := hshown 0 (by simp)
    actual_end := fun hpos => hshown _ (by simp [hpos])
    expected_end := fun hpos => hshown _ (by simp [hpos])
    real := ?real
    immutable := ?immutable
    surplus := ?surplus
    missing := ?missing }
  case real =>
    refine forall₂_starting (by decide) hasc hc.ascending_real
      (fun m hm => hshown m (by simp [hm])) fun row hrow => ?_
    obtain ⟨hreal,-⟩ := hmark row hrow
    have hnot := hc.disjoint (a := row.index)
    rw [hreal, ← hc.differs]
    simp only [List.contains_eq_mem, decide_eq_false_iff_not]
    tauto
  case immutable =>
    refine forall₂_starting (by decide) hasc hc.ascending_immutable
      (fun m hm => hshown m (by simp [hm])) fun row hrow => ?_
    obtain ⟨-,himmutable,-⟩ := hmark row hrow
    rw [himmutable, ← hc.differs]
    simp only [List.contains_eq_mem, decide_eq_true_eq]
    tauto
  case surplus =>
    refine forall_starting (by decide) fun row hrow hown => ?_
    obtain ⟨-,-,hsurplus,-⟩ := hmark row hrow
    obtain ⟨ha,he⟩ := hsurplus.mp hown
    rw [Ne, List.getElem?_eq_none_iff] at ha
    rw [List.getElem?_eq_none_iff] at he
    have := hc.actualLength
    have := hc.expectedLength
    omega
  case missing =>
    refine forall_starting (by decide) fun row hrow hown => ?_
    obtain ⟨-,-,-,hmissing⟩ := hmark row hrow
    obtain ⟨ha,he⟩ := hmissing.mp hown
    rw [List.getElem?_eq_none_iff] at ha
    rw [Ne, List.getElem?_eq_none_iff] at he
    have := hc.actualLength
    have := hc.expectedLength
    omega

/-- A comparison has a listing unless the trimmed codes are the same bytes, and the plain listing
pictures the comparison. -/
theorem pictured_of_evaluate {context : Nat} {refs : Immutables} {actual expected : String}
    {c : Comparison} (h : evaluate context refs actual expected = .ok c) :
    ∃ p q, Hex.read actual = .ok p ∧ Hex.read expected = .ok q ∧
      c.Describes (disassemble (trim p).code) (disassemble (trim q).code) ∧
      (c.diff = none ↔ (trim p).code = (trim q).code) ∧
      ∀ plain, c.diffText? false = some plain → ∃ shown, c.Pictured shown plain := by
  obtain ⟨p,q,-,hp,hq,-⟩ := eq_comparisonOf_of_evaluate h
  obtain ⟨diff,hdiff,hlisting⟩ := exists_compareTrimmed refs context (trim p) (trim q)
  rw [evaluate_of_read context refs hp hq, hdiff] at h
  cases h
  have hc := describes_comparisonOf refs (trim p) (trim q) diff
  refine ⟨p,q,hp,hq,hc,?_,?_⟩
  · rw [code_eq_iff_mismatches]
    cases hlisting with
    | none hsame => exact iff_of_true rfl hsame
    | some hdiffer _ => exact iff_of_false (Option.some_ne_none _) hdiffer
  · rintro plain hplain
    cases hlisting with
    | none => cases hplain
    | some _ hrows =>
      cases hplain
      exact ⟨_,hc.pictured hrows⟩

/-- A filled-in push, some equal code, another opcode, and an end that the expected code lacks. -/
theorem pictured_of_evaluate_surplus :
    ∃ c plain shown, evaluate 0 [(1,1)] "60015b5b5b00fe" "60025b5b5b01" = .ok c ∧
      c.diffText? false = some plain ∧ c.Pictured shown plain := by
  have hp : Hex.read "60015b5b5b00fe" = .ok [0x60,1,0x5b,0x5b,0x5b,0,0xfe] :=
    Result.eq_ok_of_toOption (by decide +kernel)
  have hq : Hex.read "60025b5b5b01" = .ok [0x60,2,0x5b,0x5b,0x5b,1] :=
    Result.eq_ok_of_toOption (by decide +kernel)
  obtain ⟨diff,hc⟩ := exists_evaluate 0 [(1,1)] hp hq
  obtain ⟨p,q,hp',hq',-,hnone,hplain⟩ := pictured_of_evaluate hc
  rw [hp] at hp'
  rw [hq] at hq'
  cases hp'
  cases hq'
  have hdiffer : (trim [0x60,1,0x5b,0x5b,0x5b,0,0xfe]).code ≠
      (trim [0x60,2,0x5b,0x5b,0x5b,1]).code := by decide +kernel
  obtain ⟨rows,hrows⟩ := Option.ne_none_iff_exists'.mp (hnone.not.mpr hdiffer)
  have htext := congrArg (Option.map (renderRows false)) hrows
  obtain ⟨shown,hshown⟩ := hplain _ htext
  exact ⟨_,_,shown,hc,htext,hshown⟩

end DeployCheck.Bytecode
