import DeployCheck.Proofs.Bytecode.RowLines

/-! Rows recovered from their listing. A listing without colour is told apart from every other one,
unless the rows of the two show the same bytes at the same indices in the same way. -/
namespace DeployCheck.Bytecode

open Text

/-- Both show instructions of the same bytes, in the same way. -/
inductive Pairing.Alike : Pairing → Pairing → Prop
  | same {i j : Instruction} (h : i.raw = j.raw) : Alike (.same i) (.same j)
  | differs {a b e f : Instruction} {tolerated : Bool} (hactual : a.raw = b.raw)
      (hexpected : e.raw = f.raw) : Alike (.differs a e tolerated) (.differs b f tolerated)
  | actualOnly {i j : Instruction} (h : i.raw = j.raw) : Alike (.actualOnly i) (.actualOnly j)
  | expectedOnly {i j : Instruction} (h : i.raw = j.raw) : Alike (.expectedOnly i) (.expectedOnly j)

/-- Two rows for one index that show the same bytes in the same way. -/
structure Row.Alike (row other : Row) : Prop where
  index : row.index = other.index
  pairing : row.pairing.Alike other.pairing

/-! ## Instructions -/

namespace Row

lemma columns_congr (name : UInt8 → String) {i j : Instruction} (h : i.raw = j.raw) :
    columns name i = columns name j := by
  obtain ⟨hopcode,himmediate⟩ := List.cons.inj h
  rw [columns, columns, opcodeCell, opcodeCell, Instruction.immediateText,
    Instruction.immediateText, hopcode, himmediate]

lemma opcode_eq_of_opcodeCell {i j : Instruction} (h : opcodeCell i = opcodeCell j) :
    i.opcode = j.opcode := UInt8.toNat_inj.mp (hexDigitsUpper_inj h)

lemma immediate_eq_of_immediateText {i j : Instruction} (h : i.immediateText = j.immediateText) :
    i.immediate = j.immediate := by
  have hempty : ∀ {bs : List UInt8}, "0x" ++ Hex.encode bs ≠ "" := fun h =>
    absurd (congrArg String.toList h) (by simp)
  unfold Instruction.immediateText at h
  split_ifs at h with hi hj hj
  · rw [List.isEmpty_iff.mp hi, List.isEmpty_iff.mp hj]
  · exact absurd h.symm hempty
  · exact absurd h hempty
  · rw [← String.toList_inj, String.toList_append, String.toList_append] at h
    exact Hex.encode_injective (String.toList_inj.mp (List.append_cancel_left h))

/-- The bytes of an instruction can be told from its columns, and so can what follows them. -/
theorem columns_append_inj (name : UInt8 → String) {i j : Instruction} {cs ds : List Char}
    (hcs : StartsBlank cs) (hds : StartsBlank ds)
    (h : trimEnd ((columns name i).toList ++ cs) = trimEnd ((columns name j).toList ++ ds)) :
    i.raw = j.raw ∧ trimEnd cs = trimEnd ds := by
  have hdata : ∀ i : Instruction, IsWord i.immediateText.toList := fun i =>
    isWord_of_isAlphanum isAlphanum_of_mem_immediateText
  have hsplit : ∀ i rest, (columns name i).toList ++ rest = (opcodeCell i).toList ++
      ' ' :: ((name i.opcode).toList ++ ' ' :: (i.immediateText.toList ++ rest)) := by
    intro i rest
    simp [columns]
  rw [hsplit, hsplit] at h
  obtain ⟨hcell,hrest⟩ := trimEnd_word_append_inj (isWord_opcodeCell i)
    (isWord_opcodeCell j) (startsBlank_space _) (startsBlank_space _) h
  have hopcode := opcode_eq_of_opcodeCell (String.toList_inj.mp hcell)
  -- the same opcode has the same name, which ends where the data start
  have hbehind : trimEnd (i.immediateText.toList ++ cs) = trimEnd (j.immediateText.toList ++ ds) := by
    apply trimEnd_append_cancel (' ' :: ((name j.opcode).toList ++ [' ']))
    simpa [hopcode] using hrest
  obtain ⟨htext,hend⟩ := trimEnd_word_append_inj (hdata i) (hdata j) hcs hds hbehind
  have himmediate := immediate_eq_of_immediateText (String.toList_inj.mp htext)
  exact ⟨by rw [Instruction.raw, Instruction.raw, hopcode, himmediate],hend⟩

lemma columns_inj (name : UInt8 → String) {i j : Instruction}
    (h : trimEnd (columns name i).toList = trimEnd (columns name j).toList) : i.raw = j.raw := by
  have hnil : StartsBlank [] := by simp [StartsBlank]
  exact (columns_append_inj name hnil hnil (by simpa using h)).1

lemma raw_eq_of_cells {i j : Instruction}
    (h : trimEnd (cells i).toList = trimEnd (cells j).toList) : i.raw = j.raw := by
  rw [cells_eq_columns, cells_eq_columns] at h
  exact columns_inj _ h

/-- Both instructions of a difference can be told. -/
lemma raw_eq_of_differs {a b e f : Instruction}
    (h : trimEnd (cells a ++ " | expected " ++ wanted e).toList =
      trimEnd (cells b ++ " | expected " ++ wanted f).toList) : a.raw = b.raw ∧ e.raw = f.raw := by
  have hblank : ∀ rest, StartsBlank (" | expected ".toList ++ rest) := by
    rintro rest c ⟨⟩
    decide
  simp only [cells_eq_columns, String.toList_append, List.append_assoc] at h
  obtain ⟨hactual,hrest⟩ := columns_append_inj _ (hblank _) (hblank _) h
  have hexpected := trimEnd_append_cancel _ hrest
  simp only [wanted_eq_columns, strippedEnd, String.toList_ofList, trimEnd_trimEnd] at hexpected
  exact ⟨hactual,columns_inj _ hexpected⟩

/-! ## Rows -/

variable {row other : Row}

lemma alike_of_shown (hmarker : row.marker = other.marker)
    (h : trimEnd row.shown.toList = trimEnd other.shown.toList) :
    row.pairing.Alike other.pairing := by
  obtain ⟨index,pairing⟩ := row
  obtain ⟨index',pairing'⟩ := other
  cases pairing with
  | same i =>
    cases pairing' with
    | same j => exact .same (raw_eq_of_cells h)
    | differs b f tolerated => cases tolerated <;> cases hmarker
    | actualOnly | expectedOnly => cases hmarker
  | differs a e tolerated =>
    cases pairing' with
    | same j => cases tolerated <;> cases hmarker
    | differs b f tolerated' =>
      obtain rfl : tolerated = tolerated' := by
        cases tolerated <;> cases tolerated' <;> first | rfl | cases hmarker
      obtain ⟨hactual,hexpected⟩ := raw_eq_of_differs h
      exact .differs hactual hexpected
    | actualOnly | expectedOnly => cases tolerated <;> cases hmarker
  | actualOnly i =>
    cases pairing' with
    | actualOnly j => exact .actualOnly (raw_eq_of_cells h)
    | differs b f tolerated => cases tolerated <;> cases hmarker
    | same | expectedOnly => cases hmarker
  | expectedOnly i =>
    cases pairing' with
    | expectedOnly j => exact .expectedOnly (raw_eq_of_cells h)
    | differs b f tolerated => cases tolerated <;> cases hmarker
    | same | actualOnly => cases hmarker

lemma shown_congr (h : row.pairing.Alike other.pairing) :
    row.marker = other.marker ∧ row.shown = other.shown := by
  obtain ⟨index,pairing⟩ := row
  obtain ⟨index',pairing'⟩ := other
  cases h with
  | differs hactual hexpected =>
    simp only [marker, shown, cells_eq_columns, wanted_eq_columns, columns_congr _ hactual,
      columns_congr _ hexpected, and_self]
  | same h | actualOnly h | expectedOnly h =>
    simp only [marker, shown, cells_eq_columns, columns_congr _ h, and_self]

/-- A line tells its row. -/
theorem line_eq_iff : row.line false = other.line false ↔ row.Alike other := by
  rw [← String.toList_inj, toList_line, toList_line]
  constructor
  · intro h
    obtain ⟨hmarker,hline⟩ := List.cons.inj h
    obtain ⟨hdigits,hshown⟩ := word_append_inj (isWord_hexDigitsUpper 4 row.index)
      (isWord_hexDigitsUpper 4 other.index) (startsBlank_space _) (startsBlank_space _)
      (List.cons.inj hline).2
    exact ⟨hexDigitsUpper_inj (String.toList_inj.mp hdigits),
      alike_of_shown hmarker (List.cons.inj hshown).2⟩
  · intro h
    obtain ⟨hmarker,hshown⟩ := shown_congr h.pairing
    rw [h.index, hmarker, hshown]

end Row

/-! ## Listings -/

lemma rowLines_congr {rows others : List Row} (h : List.Forall₂ Row.Alike rows others)
    (next : Nat) : rowLines false next rows = rowLines false next others := by
  induction h generalizing next with
  | nil => rfl
  | cons hrow _ ih => rw [rowLines, rowLines, Row.line_eq_iff.mpr hrow, hrow.index, ih]

/-- Two listings without colour are the same text where their rows are alike, one by one, and only
there. -/
theorem renderRows_eq_iff (rows others : List Row) :
    renderRows false rows = renderRows false others ↔ List.Forall₂ Row.Alike rows others := by
  constructor
  · intro h
    have hlines : rows.map Row.endedLine = others.map Row.endedLine := by
      have hbody := congrArg linesOf h
      rw [linesOf_renderRows, linesOf_renderRows] at hbody
      rw [← filter_body 0, ← filter_body 0, (List.cons.inj hbody).2]
    have hended : ∀ {row other : Row}, row.endedLine = other.endedLine → row.Alike other := by
      intro row other h
      rw [Row.endedLine, Row.endedLine, ← String.toList_inj, String.toList_append,
        String.toList_append] at h
      exact Row.line_eq_iff.mp (String.toList_inj.mp (List.append_cancel_right h))
    rw [← List.forall₂_eq_eq_eq, List.forall₂_map_left_iff, List.forall₂_map_right_iff] at hlines
    exact hlines.imp fun _ _ => hended
  · intro h
    rw [renderRows, renderRows, rowLines_congr h]

end DeployCheck.Bytecode
