import DeployCheck.Bytecode.Instruction
import Mathlib.Tactic.Common

/-! The one cut of a byte string into instructions. Disassembly finds it, and no other cut of the
same bytes lets only the last instruction lack data. -/
namespace DeployCheck.Bytecode

namespace Instruction

/-- All data that the opcode declares is there. -/
def IsComplete (i : Instruction) : Prop := i.immediate.length = immediateSize i.opcode

instance (i : Instruction) : Decidable i.IsComplete := by unfold IsComplete; infer_instance

lemma raw_injective_opcode {i j : Instruction} (h : i.raw = j.raw) :
    i.opcode = j.opcode ∧ i.immediate = j.immediate := by
  simpa [raw] using h

end Instruction

/-- A cut of code into instructions, of which only the last may lack data. -/
def WellCut : List Instruction → Prop
  | [] => True
  | i :: rest =>
    i.immediate.length ≤ immediateSize i.opcode ∧ (rest ≠ [] → i.IsComplete) ∧ WellCut rest

/-- Each instruction stands where the one before it ends. -/
def Consecutive : Nat → List Instruction → Prop
  | _, [] => True
  | pc, i :: rest => i.pc = pc ∧ Consecutive i.stop rest

@[simp] theorem assemble_nil : assemble [] = [] := rfl

@[simp] theorem assemble_cons (i : Instruction) (rest : List Instruction) :
    assemble (i :: rest) = i.raw ++ assemble rest := rfl

lemma assemble_eq_flatten (code : List Instruction) :
    assemble code = (code.map Instruction.raw).flatten := by
  simp [assemble, List.flatMap_def]

@[simp] theorem disassembleFrom_nil (pc : Nat) : disassembleFrom pc [] = [] := by
  simp [disassembleFrom]

theorem disassembleFrom_cons (pc : Nat) (opcode : UInt8) (rest : List UInt8) :
    disassembleFrom pc (opcode :: rest) =
      ⟨pc, opcode, rest.take (immediateSize opcode)⟩ ::
        disassembleFrom (pc + 1 + (rest.take (immediateSize opcode)).length)
          (rest.drop (immediateSize opcode)) := by
  rw [disassembleFrom]

/-- A listing reproduces its bytes. -/
theorem assemble_disassembleFrom (pc : Nat) (bytes : List UInt8) :
    assemble (disassembleFrom pc bytes) = bytes := by
  fun_induction disassembleFrom pc bytes with
  | case1 => rfl
  | case2 pc opcode rest n immediate ih =>
    rw [assemble_cons, ih]
    simp [Instruction.raw, immediate]

theorem wellCut_disassembleFrom (pc : Nat) (bytes : List UInt8) :
    WellCut (disassembleFrom pc bytes) := by
  fun_induction disassembleFrom pc bytes with
  | case1 => trivial
  | case2 pc opcode rest n immediate ih =>
    refine ⟨List.length_take_le _ _,?_,ih⟩
    intro hne
    -- instructions follow only where the data did not use up the bytes
    have hlt : n < rest.length := by
      by_contra hge
      rw [List.drop_eq_nil_of_le (by omega)] at hne
      exact hne (disassembleFrom_nil _)
    change (rest.take n).length = n
    rw [List.length_take]
    omega

theorem consecutive_disassembleFrom (pc : Nat) (bytes : List UInt8) :
    Consecutive pc (disassembleFrom pc bytes) := by
  fun_induction disassembleFrom pc bytes with
  | case1 => trivial
  | case2 pc opcode rest n immediate ih =>
    refine ⟨rfl,?_⟩
    simpa [Instruction.stop, Instruction.length, Nat.add_assoc] using ih

lemma le_pc_of_mem {pc : Nat} {code : List Instruction} (h : Consecutive pc code) {i : Instruction}
    (hi : i ∈ code) : pc ≤ i.pc := by
  induction code generalizing pc with
  | nil => simp at hi
  | cons j rest ih =>
    obtain ⟨rfl,hrest⟩ := h
    rcases List.mem_cons.mp hi with rfl | hi
    · exact Nat.le_refl _
    · have := ih hrest hi
      unfold Instruction.stop at this
      omega

/-- No two instructions hold the same position. -/
theorem eq_of_common_position {pc : Nat} {code : List Instruction} (h : Consecutive pc code)
    {i j : Instruction} (hi : i ∈ code) (hj : j ∈ code) (position : Nat)
    (hpi : i.pc ≤ position ∧ position < i.stop) (hpj : j.pc ≤ position ∧ position < j.stop) :
    i = j := by
  induction code generalizing pc with
  | nil => simp at hi
  | cons k rest ih =>
    obtain ⟨-,hrest⟩ := h
    rcases List.mem_cons.mp hi with rfl | hir <;> rcases List.mem_cons.mp hj with rfl | hjr
    · rfl
    · have := le_pc_of_mem hrest hjr
      omega
    · have := le_pc_of_mem hrest hir
      omega
    · exact ih hrest hir hjr

lemma stop_of_isComplete {e : Instruction} (h : e.IsComplete) :
    e.stop = e.pc + 1 + immediateSize e.opcode := by
  rw [← h, Instruction.stop, Instruction.length]
  omega

/-- What an opcode takes of the bytes behind it is its own data, if only a last instruction may
lack some. -/
lemma split_immediate {i : Instruction} {rest : List Instruction} (h : WellCut (i :: rest)) :
    (i.immediate ++ assemble rest).take (immediateSize i.opcode) = i.immediate ∧
      (i.immediate ++ assemble rest).drop (immediateSize i.opcode) = assemble rest := by
  obtain ⟨hle,hfull,-⟩ := h
  cases rest with
  | nil => simp [List.take_of_length_le hle, List.drop_eq_nil_of_le hle]
  | cons j rest =>
    have hlen : i.immediate.length = immediateSize i.opcode := hfull (by simp)
    exact ⟨List.take_left' hlen,List.drop_left' hlen⟩

/-- Two cuts of the same bytes have the same instructions, wherever they are said to stand. -/
theorem map_raw_disassembleFrom {code : List Instruction} (h : WellCut code) (pc : Nat) :
    (disassembleFrom pc (assemble code)).map Instruction.raw = code.map Instruction.raw := by
  induction code generalizing pc with
  | nil => simp
  | cons i rest ih =>
    obtain ⟨htake,hdrop⟩ := split_immediate h
    change (disassembleFrom pc (i.opcode :: (i.immediate ++ assemble rest))).map _ = _
    rw [disassembleFrom_cons, htake, hdrop, List.map_cons, List.map_cons, ih h.2.2]
    rfl

lemma eq_of_map_raw_eq {code other : List Instruction} {pc : Nat}
    (hcode : Consecutive pc code) (hother : Consecutive pc other)
    (h : code.map Instruction.raw = other.map Instruction.raw) : code = other := by
  induction code generalizing pc other with
  | nil => simpa [eq_comm] using h
  | cons i rest ih =>
    cases other with
    | nil => simp at h
    | cons j others =>
      obtain ⟨hraw,hrest⟩ := List.cons.inj (by simpa using h)
      obtain ⟨hop,himm⟩ := Instruction.raw_injective_opcode hraw
      have hij : i = j := by
        cases i
        cases j
        simp_all [Consecutive]
      subst hij
      rw [ih hcode.2 hother.2 hrest]

/-- The listing of bytes is their only cut into consecutive instructions. -/
theorem eq_disassembleFrom {code : List Instruction} {pc : Nat} {bytes : List UInt8}
    (hcut : WellCut code) (hpc : Consecutive pc code) (hbytes : assemble code = bytes) :
    code = disassembleFrom pc bytes := by
  subst hbytes
  exact eq_of_map_raw_eq hpc (consecutive_disassembleFrom _ _) (map_raw_disassembleFrom hcut pc).symm

theorem assemble_disassemble (bytes : List UInt8) : assemble (disassemble bytes) = bytes :=
  assemble_disassembleFrom 0 bytes

theorem wellCut_disassemble (bytes : List UInt8) : WellCut (disassemble bytes) :=
  wellCut_disassembleFrom 0 bytes

/-- A byte string has as many instructions as any cut of it, with the same bytes. -/
theorem map_raw_disassemble {code : List Instruction} (h : WellCut code) :
    (disassemble (assemble code)).map Instruction.raw = code.map Instruction.raw :=
  map_raw_disassembleFrom h 0

/-- Code is determined by the bytes of its instructions. -/
theorem map_raw_disassemble_eq_iff (a b : List UInt8) :
    (disassemble a).map Instruction.raw = (disassemble b).map Instruction.raw ↔ a = b := by
  constructor
  · intro h
    rw [← assemble_disassemble a, ← assemble_disassemble b, assemble_eq_flatten, h,
      ← assemble_eq_flatten]
  · rintro rfl
    rfl

end DeployCheck.Bytecode
