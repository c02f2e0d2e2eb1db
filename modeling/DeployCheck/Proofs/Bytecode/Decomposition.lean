import DeployCheck.Proofs.Bytecode.Listing
import Mathlib.Data.String.Basic

/-! Code has one decomposition into instructions, the one that disassembly finds. The opcodes of a
decomposition stand at offsets that the code alone determines, and the unassigned bytes reported are
those found at these offsets. -/
namespace DeployCheck.Bytecode

/-- In code of `size` bytes, all data that the opcode declares is there as far as the code goes. -/
def Instruction.IsFilled (size : Nat) (i : Instruction) : Prop :=
  i.immediate.length = min (immediateSize i.opcode) (size - (i.pc + 1))

/-- A decomposition of code into instructions. -/
structure Decomposes (bytes : List UInt8) (code : List Instruction) : Prop where
  assembled : assemble code = bytes
  consecutive : Consecutive 0 code
  filled : ∀ i ∈ code, i.IsFilled bytes.length

/-- Offsets of opcodes, whatever stands there: the first byte, and the byte behind the data that an
opcode declares. -/
inductive IsStart (bytes : List UInt8) : Nat → Prop
  | zero : IsStart bytes 0
  | next {pc : Nat} {opcode : UInt8} (start : IsStart bytes pc) (byte : bytes[pc]? = some opcode) :
    IsStart bytes (pc + 1 + immediateSize opcode)

section Consecutive

variable {pc : Nat} {code : List Instruction}

/-- Where instructions follow each other, the data is filled in exactly if only the last instruction
lacks some. -/
theorem filled_iff_wellCut (h : Consecutive pc code) {size : Nat}
    (hsize : size = pc + (assemble code).length) :
    (∀ i ∈ code, i.IsFilled size) ↔ WellCut code := by
  induction code generalizing pc with
  | nil => simp [WellCut]
  | cons i rest ih =>
    obtain ⟨rfl,hrest⟩ := h
    have hstop : i.stop = i.pc + 1 + i.immediate.length := by
      unfold Instruction.stop Instruction.length
      omega
    have htotal : size = i.stop + (assemble rest).length := by
      rw [hsize, assemble_cons, List.length_append, Instruction.length_raw, Instruction.stop]
      omega
    rw [List.forall_mem_cons, ih hrest htotal, WellCut, ← and_assoc]
    refine and_congr_left fun _ => ?_
    unfold Instruction.IsFilled Instruction.IsComplete
    cases rest with
    | nil =>
      simp only [assemble_nil, List.length_nil] at htotal
      simp only [ne_eq, not_true_eq_false, false_implies, and_true]
      omega
    | cons j rest =>
      -- more bytes follow, so the code does not end inside the data
      have hlonger : 0 < (assemble (j :: rest)).length := by simp [Instruction.raw]
      simp only [ne_eq, reduceCtorEq, not_false_eq_true, true_implies]
      omega

/-- The opcode of an instruction stands at its offset. -/
theorem getElem?_pc (h : Consecutive pc code) {i : Instruction} (hi : i ∈ code) :
    (assemble code)[i.pc - pc]? = some i.opcode := by
  induction code generalizing pc with
  | nil => simp at hi
  | cons k rest ih =>
    obtain ⟨rfl,hrest⟩ := h
    rcases List.mem_cons.mp hi with rfl | hi
    · simp [Instruction.raw]
    · have hle := le_pc_of_mem hrest hi
      have hstop : k.stop = k.pc + k.length := rfl
      rw [assemble_cons, List.getElem?_append_right (by rw [Instruction.length_raw]; omega),
        Instruction.length_raw, show i.pc - k.pc - k.length = i.pc - k.stop by omega]
      exact ih hrest hi

/-- An instruction that does not end the code is followed by another. -/
theorem exists_pc_eq_stop (h : Consecutive pc code) {i : Instruction} (hi : i ∈ code)
    (hlt : i.stop < pc + (assemble code).length) : ∃ j ∈ code, j.pc = i.stop := by
  induction code generalizing pc with
  | nil => simp at hi
  | cons k rest ih =>
    obtain ⟨rfl,hrest⟩ := h
    have hstop : k.stop = k.pc + k.length := rfl
    rw [assemble_cons, List.length_append, Instruction.length_raw] at hlt
    rcases List.mem_cons.mp hi with rfl | hi
    · cases rest with
      | nil => simp at hlt; omega
      | cons j rest => exact ⟨j,by simp,hrest.1⟩
    · obtain ⟨j,hj,hpc⟩ := ih hrest hi (by omega)
      exact ⟨j,List.mem_cons_of_mem _ hj,hpc⟩

theorem stop_le (h : Consecutive pc code) {i : Instruction} (hi : i ∈ code) :
    i.stop ≤ pc + (assemble code).length := by
  induction code generalizing pc with
  | nil => simp at hi
  | cons k rest ih =>
    obtain ⟨rfl,hrest⟩ := h
    have hstop : k.stop = k.pc + k.length := rfl
    rw [assemble_cons, List.length_append, Instruction.length_raw]
    rcases List.mem_cons.mp hi with rfl | hi
    · omega
    · have := ih hrest hi
      omega

theorem isComplete_of_mem_dropLast (h : WellCut code) : ∀ i ∈ code.dropLast, i.IsComplete := by
  induction code with
  | nil => simp
  | cons k rest ih =>
    cases rest with
    | nil => simp
    | cons j rest =>
      rw [List.dropLast_cons_cons, List.forall_mem_cons]
      exact ⟨h.2.1 (by simp),ih h.2.2⟩

/-- Instructions after an offset of an opcode stand at such offsets too. -/
theorem isStart_of_consecutive {bytes : List UInt8}
    (hbyte : ∀ i ∈ code, bytes[i.pc]? = some i.opcode) (hpc : Consecutive pc code)
    (hcut : WellCut code) (hs : IsStart bytes pc) : ∀ i ∈ code, IsStart bytes i.pc := by
  induction code generalizing pc with
  | nil => simp
  | cons k rest ih =>
    obtain ⟨rfl,hrest⟩ := hpc
    rw [List.forall_mem_cons] at hbyte ⊢
    refine ⟨hs,?_⟩
    cases rest with
    | nil => simp
    | cons j rest =>
      -- the first instruction is complete, so the next one stands where its data is to end
      refine ih hbyte.2 hrest hcut.2.2 ?_
      rw [stop_of_isComplete (hcut.2.1 (by simp))]
      exact .next hs hbyte.1

end Consecutive

theorem decomposes_disassemble (bytes : List UInt8) : Decomposes bytes (disassemble bytes) where
  assembled := assemble_disassemble bytes
  consecutive := consecutive_disassembleFrom 0 bytes
  filled := (filled_iff_wellCut (consecutive_disassembleFrom 0 bytes)
    (by rw [assemble_disassembleFrom]; omega)).mpr (wellCut_disassemble bytes)

namespace Decomposes

variable {bytes : List UInt8} {code : List Instruction}

theorem wellCut (h : Decomposes bytes code) : WellCut code :=
  (filled_iff_wellCut h.consecutive (by rw [h.assembled]; omega)).mp h.filled

theorem byte_pc (h : Decomposes bytes code) {i : Instruction} (hi : i ∈ code) :
    bytes[i.pc]? = some i.opcode := by
  have := getElem?_pc h.consecutive hi
  rwa [h.assembled] at this

/-- Only the last instruction may lack data. -/
theorem isComplete (h : Decomposes bytes code) {i : Instruction} (hi : i ∈ code)
    (hlt : i.pc + 1 + immediateSize i.opcode ≤ bytes.length) : i.IsComplete := by
  have := h.filled i hi
  unfold Instruction.IsFilled at this
  unfold Instruction.IsComplete
  omega

/-- An instruction stands at every offset of an opcode. -/
theorem exists_of_isStart (h : Decomposes bytes code) {pc : Nat} (hs : IsStart bytes pc)
    (hlt : pc < bytes.length) : ∃ i ∈ code, i.pc = pc := by
  induction hs with
  | zero =>
    cases code with
    | nil => simp [← h.assembled] at hlt
    | cons i rest => exact ⟨i,by simp,h.consecutive.1⟩
  | @next pc opcode start byte ih =>
    obtain ⟨i,hi,rfl⟩ := ih (by omega)
    obtain rfl : i.opcode = opcode := Option.some.inj ((h.byte_pc hi).symm.trans byte)
    have hstop := stop_of_isComplete (h.isComplete hi (by omega))
    rw [← hstop] at hlt ⊢
    exact exists_pc_eq_stop h.consecutive hi (by rwa [h.assembled, Nat.zero_add])

/-- Every instruction stands at the offset of an opcode. -/
theorem isStart_pc (h : Decomposes bytes code) : ∀ i ∈ code, IsStart bytes i.pc :=
  isStart_of_consecutive (fun _ hi => h.byte_pc hi) h.consecutive h.wellCut .zero

/-- No opcode starts inside the data of an instruction. -/
theorem not_isStart_of_data (h : Decomposes bytes code) {i : Instruction} (hi : i ∈ code)
    {pc : Nat} (hlo : i.pc < pc) (hhi : pc < i.stop) : ¬IsStart bytes pc := by
  intro hs
  have hle := stop_le h.consecutive hi
  rw [h.assembled] at hle
  obtain ⟨j,hj,rfl⟩ := h.exists_of_isStart hs (by omega)
  have hstop : j.pc < j.stop := by
    unfold Instruction.stop Instruction.length
    omega
  obtain rfl := eq_of_common_position h.consecutive hi hj j.pc ⟨by omega,hhi⟩ ⟨le_refl _,hstop⟩
  omega

end Decomposes

/-! ## Unassigned bytes -/

lemma mem_allBytes (b : UInt8) : b ∈ allBytes :=
  List.mem_map.mpr ⟨b.toNat,List.mem_range.mpr b.toNat_lt,UInt8.ofNat_toNat⟩

lemma mem_unassigned_iff {code : List Instruction} {b : UInt8} :
    b ∈ unassigned code ↔ mnemonic? b = none ∧ ∃ i ∈ code, i.opcode = b := by
  simp [unassigned, mem_allBytes]

lemma ascending_byteText : (allBytes.map byteText).Pairwise (· < ·) := by
  have hchain : (allBytes.map byteText).IsChain (· < ·) := by decide +kernel
  exact hchain.pairwise

/-- Unassigned bytes are listed once each, ascending by their texts. -/
theorem ascending_unassigned (code : List Instruction) :
    ((unassigned code).map byteText).Pairwise (· < ·) :=
  ascending_byteText.sublist (List.filter_sublist.map _)

lemma mnemonic_eq_iff (b : UInt8) :
    mnemonic? b = some (mnemonic b) ∨ mnemonic? b = none ∧ mnemonic b = unassignedName := by
  unfold mnemonic
  cases mnemonic? b <;> simp

/-- Code decomposes into the instructions of its disassembly and into no others. Only the last of
them may lack data, and the unassigned bytes are those at the offsets of opcodes that the table does
not name. -/
theorem decomposes_iff_disassemble (bytes : List UInt8) :
    (∀ code, Decomposes bytes code ↔ code = disassemble bytes) ∧
      (∀ i ∈ (disassemble bytes).dropLast, i.IsComplete) ∧
      (∀ i ∈ disassemble bytes, mnemonic? i.opcode = some i.mnemonic ∨
        mnemonic? i.opcode = none ∧ i.mnemonic = "INVALID") ∧
      (∀ text, text ∈ (unassigned (disassemble bytes)).map byteText ↔
        ∃ pc b, IsStart bytes pc ∧ bytes[pc]? = some b ∧ mnemonic? b = none ∧
          text = byteText b) ∧
      (∀ i ∈ disassemble bytes, ∀ pc, i.pc < pc → pc < i.stop → ¬IsStart bytes pc) ∧
      ((unassigned (disassemble bytes)).map byteText).Pairwise (· < ·) := by
  have hlist := decomposes_disassemble bytes
  refine ⟨fun code => ⟨?_,?_⟩,?_,fun i _ => mnemonic_eq_iff i.opcode,fun text => ⟨?_,?_⟩,?_,
    ascending_unassigned _⟩
  · intro h
    exact eq_disassembleFrom h.wellCut h.consecutive h.assembled
  · rintro rfl
    exact hlist
  · exact isComplete_of_mem_dropLast hlist.wellCut
  · intro htext
    obtain ⟨b,hb,rfl⟩ := List.mem_map.mp htext
    obtain ⟨hnone,i,hi,rfl⟩ := mem_unassigned_iff.mp hb
    exact ⟨i.pc,_,hlist.isStart_pc i hi,hlist.byte_pc hi,hnone,rfl⟩
  · rintro ⟨pc,b,hs,hbyte,hnone,rfl⟩
    obtain ⟨hlt,-⟩ := List.getElem?_eq_some_iff.mp hbyte
    obtain ⟨i,hi,rfl⟩ := hlist.exists_of_isStart hs hlt
    have hop : i.opcode = b := Option.some.inj ((hlist.byte_pc hi).symm.trans hbyte)
    exact List.mem_map_of_mem (mem_unassigned_iff.mpr ⟨hnone,i,hi,hop⟩)
  · intro i hi pc
    exact hlist.not_isStart_of_data hi

end DeployCheck.Bytecode
