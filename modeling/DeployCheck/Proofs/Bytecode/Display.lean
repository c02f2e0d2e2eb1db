import DeployCheck.Bytecode.Comparison
import Mathlib.Algebra.Order.Group.Abs
import Mathlib.Algebra.Order.Group.Int
import Mathlib.Data.List.Sort

/-! The indices that a listing of differences shows, and why every one of them has a row. -/
namespace DeployCheck.Bytecode

lemma mem_dropRepeats (i : Nat) (ns : List Nat) : i ∈ dropRepeats ns ↔ i ∈ ns := by
  fun_induction dropRepeats ns with
  | case1 => rfl
  | case2 n => rfl
  | case3 m rest ih => simp [ih]
  | case4 n m rest hne ih => simp [ih]

theorem mem_ascending (i : Nat) (ns : List Nat) : i ∈ ascending ns ↔ i ∈ ns := by
  rw [ascending, mem_dropRepeats, List.mem_mergeSort]

lemma ascending_dropRepeats {ns : List Nat} (h : ns.Pairwise (· ≤ ·)) :
    (dropRepeats ns).Pairwise (· < ·) := by
  fun_induction dropRepeats ns with
  | case1 => exact .nil
  | case2 n => exact List.pairwise_singleton _ n
  | case3 m rest ih => exact ih h.of_cons
  | case4 n m rest hne ih =>
    obtain ⟨hfirst,hrest⟩ := List.pairwise_cons.mp h
    refine List.pairwise_cons.mpr ⟨?_,ih hrest⟩
    intro i hi
    have hlt : n < m := lt_of_le_of_ne (hfirst m List.mem_cons_self) hne
    rcases List.mem_cons.mp ((mem_dropRepeats _ _).mp hi) with rfl | hi
    · exact hlt
    · exact hlt.trans_le (List.rel_of_pairwise_cons hrest hi)

theorem ascending_displayIndices (ms : List Nat) (actualLength expectedLength context : Nat) :
    (displayIndices ms actualLength expectedLength context).Pairwise (· < ·) :=
  ascending_dropRepeats (List.pairwise_mergeSort' (· ≤ ·) _)

/-- A window holds what is near its centre and inside the bound. -/
theorem mem_window (i context bound center : Nat) :
    i ∈ window context bound center ↔
      i < bound ∧ center ≤ i + context ∧ i ≤ center + context := by
  simp only [window, List.mem_map, List.mem_range]
  constructor
  · rintro ⟨j,hj,rfl⟩
    omega
  · rintro ⟨hbound,hlo,hhi⟩
    exact ⟨i - (center - context),by omega,by omega⟩

/-- The display set is the checkpoints with one window around each, where both sides go on. -/
theorem mem_displayIndices_iff (i : Nat) (ms : List Nat) (actualLength expectedLength context : Nat) :
    i ∈ displayIndices ms actualLength expectedLength context ↔
      i ∈ checkpoints ms actualLength expectedLength ∨
        i < min actualLength expectedLength ∧
          ∃ c ∈ checkpoints ms actualLength expectedLength, c ≤ i + context ∧ i ≤ c + context := by
  simp only [displayIndices, mem_ascending, List.mem_append, List.mem_flatMap, mem_window]
  grind

lemma mem_checkpoints (i : Nat) (ms : List Nat) (actualLength expectedLength : Nat) :
    i ∈ checkpoints ms actualLength expectedLength ↔
      i = 0 ∨ i ∈ ms ∨ (0 < actualLength ∧ i = actualLength - 1) ∨
        (0 < expectedLength ∧ i = expectedLength - 1) := by
  by_cases ha : actualLength = 0 <;> by_cases he : expectedLength = 0 <;>
    simp [checkpoints, ha, he, Nat.pos_iff_ne_zero]

/-- Unless both sides are empty, some side reaches every index shown. -/
theorem lt_max_of_mem_displayIndices {i : Nat} {ms : List Nat}
    {actualLength expectedLength context : Nat}
    (hms : ∀ m ∈ ms, m < max actualLength expectedLength)
    (hpos : 0 < max actualLength expectedLength)
    (h : i ∈ displayIndices ms actualLength expectedLength context) :
    i < max actualLength expectedLength := by
  rcases (mem_displayIndices_iff _ _ _ _ _).mp h with hmark | ⟨hlt,-⟩
  · rcases (mem_checkpoints _ _ _ _).mp hmark with rfl | hm | ⟨_,rfl⟩ | ⟨_,rfl⟩
    · exact hpos
    · exact hms i hm
    · omega
    · omega
  · omega

lemma exists_classify {i : Nat} {actual expected : List Instruction} (tolerated : Bool)
    (h : i < max actual.length expected.length) :
    ∃ row, Row.classify? i actual[i]? expected[i]? tolerated = some row := by
  cases ha : actual[i]? with
  | some a => cases he : expected[i]? <;> exact ⟨_,rfl⟩
  | none =>
    have hle := List.getElem?_eq_none_iff.mp ha
    have hlt : i < expected.length := by omega
    rw [List.getElem?_eq_getElem hlt]
    exact ⟨_,rfl⟩

/-- Indices that some side reaches have rows. -/
theorem exists_rowsAt {actual expected : List Instruction} (tolerated : List Nat)
    {indices : List Nat} (h : ∀ i ∈ indices, i < max actual.length expected.length) :
    ∃ rows, rowsAt actual expected tolerated indices = .ok rows := by
  induction indices with
  | nil => exact ⟨[],rfl⟩
  | cons i rest ih =>
    obtain ⟨row,hrow⟩ := exists_classify (tolerated.contains i) (h i (by simp))
    obtain ⟨rows,hrows⟩ := ih (fun j hj => h j (by simp [hj]))
    refine ⟨row :: rows,?_⟩
    unfold rowsAt at hrows ⊢
    rw [List.mapM_cons, hrow, hrows]
    rfl

/-! ## The expansion -/

/-- What a listing is built around: the differences, the first index, and the last one of each side
that has one. -/
inductive IsCheckpoint (ms : List Nat) (actualLength expectedLength : Nat) : Nat → Prop
  | mismatch {i : Nat} (h : i ∈ ms) : IsCheckpoint ms actualLength expectedLength i
  | first : IsCheckpoint ms actualLength expectedLength 0
  | actualEnd (h : 0 < actualLength) :
    IsCheckpoint ms actualLength expectedLength (actualLength - 1)
  | expectedEnd (h : 0 < expectedLength) :
    IsCheckpoint ms actualLength expectedLength (expectedLength - 1)

lemma isCheckpoint_iff (i : Nat) (ms : List Nat) (actualLength expectedLength : Nat) :
    IsCheckpoint ms actualLength expectedLength i ↔
      i ∈ checkpoints ms actualLength expectedLength := by
  rw [mem_checkpoints]
  constructor
  · intro h
    cases h with
    | mismatch h => exact .inr (.inl h)
    | first => exact .inl rfl
    | actualEnd h => exact .inr (.inr (.inl ⟨h,rfl⟩))
    | expectedEnd h => exact .inr (.inr (.inr ⟨h,rfl⟩))
  · rintro (rfl | h | ⟨h,rfl⟩ | ⟨h,rfl⟩)
    · exact .first
    · exact .mismatch h
    · exact .actualEnd h
    · exact .expectedEnd h

lemma abs_sub_le_context (i center context : Nat) :
    |(i : ℤ) - center| ≤ context ↔ center ≤ i + context ∧ i ≤ center + context := by
  rw [abs_le]
  omega

/-- More context shows more. -/
lemma displayIndices_subset (ms : List Nat) (actualLength expectedLength : Nat)
    {context wider : Nat} (h : context ≤ wider) :
    displayIndices ms actualLength expectedLength context ⊆
      displayIndices ms actualLength expectedLength wider := by
  intro i hi
  rw [mem_displayIndices_iff] at hi ⊢
  rcases hi with hmark | ⟨hlt,c,hc,hlo,hhi⟩
  · exact .inl hmark
  · exact .inr ⟨hlt,c,hc,by omega,by omega⟩

/-- The display set is one expansion of the checkpoints: a shown index is a checkpoint, or both
sides reach it and it is at most the context away from one. What the expansion adds is not expanded
again. More context shows more, and unless both sides are empty some side reaches all that is
shown, as long as no difference lies beyond the longer one. -/
theorem displayIndices_expansion (ms : List Nat) (actualLength expectedLength context : Nat) :
    (displayIndices ms actualLength expectedLength context).Pairwise (· < ·) ∧
    (∀ i, i ∈ displayIndices ms actualLength expectedLength context ↔
      IsCheckpoint ms actualLength expectedLength i ∨ i < min actualLength expectedLength ∧
        ∃ c, IsCheckpoint ms actualLength expectedLength c ∧ |(i : ℤ) - c| ≤ context) ∧
    (∀ wider, context ≤ wider → displayIndices ms actualLength expectedLength context ⊆
      displayIndices ms actualLength expectedLength wider) ∧
    ((∀ m ∈ ms, m < max actualLength expectedLength) →
      ¬(actualLength = 0 ∧ expectedLength = 0) →
      ∀ i ∈ displayIndices ms actualLength expectedLength context,
        i < max actualLength expectedLength) := by
  refine ⟨ascending_displayIndices _ _ _ _,fun i => ?_,fun _ => displayIndices_subset _ _ _,?_⟩
  · simp only [mem_displayIndices_iff, isCheckpoint_iff, abs_sub_le_context]
  · intro hms hempty i hi
    exact lt_max_of_mem_displayIndices hms (by omega) hi

/-- Around one difference in the middle of twenty instructions, an index next to one that only the
expansion shows is not shown itself. -/
theorem displayIndices_expansion_middle :
    (∀ m ∈ [10], m < max 20 20) ∧ ¬(20 = 0 ∧ 20 = 0) ∧
      3 ∈ displayIndices [10] 20 20 3 ∧ 4 ∉ displayIndices [10] 20 20 3 ∧
      ∀ i ∈ displayIndices [10] 20 20 3, i < max 20 20 := by
  obtain ⟨-,hshown,-,hinside⟩ := displayIndices_expansion [10] 20 20 3
  have hms : ∀ m ∈ [10], m < max 20 20 := by simp
  refine ⟨hms,by decide,(hshown 3).mpr (.inr ⟨by decide,0,.first,by decide⟩),?_,
    hinside hms (by decide)⟩
  simp only [hshown, isCheckpoint_iff, mem_checkpoints, abs_sub_le_context, List.mem_singleton]
  omega

end DeployCheck.Bytecode
