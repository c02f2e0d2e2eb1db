import DeployCheck.Proofs.Bytecode.Decomposition

/-! Code that is put together from two parts. Instructions with all their data are the same whatever
follows them, so the instructions of the whole are those of the parts, unless the first part ends
inside the data of a push. -/
namespace DeployCheck.Bytecode

/-- The same instruction, `n` bytes later. -/
def Instruction.shifted (n : Nat) (i : Instruction) : Instruction := { i with pc := i.pc + n }

/-- The last instruction has all its data, if there is one. -/
def EndsComplete (code : List Instruction) : Prop := ∀ i ∈ code.getLast?, i.IsComplete

instance (code : List Instruction) : Decidable (EndsComplete code) := by
  unfold EndsComplete
  infer_instance

/-! ## Instructions in front of other bytes -/

lemma stop_add_length (i : Instruction) (code : List Instruction) :
    i.stop + (assemble code).length = i.pc + (assemble (i :: code)).length := by
  rw [assemble_cons, List.length_append, Instruction.length_raw, Instruction.stop]
  omega

lemma consecutive_append {pc : Nat} {code more : List Instruction} :
    Consecutive pc (code ++ more) ↔
      Consecutive pc code ∧ Consecutive (pc + (assemble code).length) more := by
  induction code generalizing pc with
  | nil => simp [Consecutive]
  | cons i code ih =>
    rw [List.cons_append, Consecutive, Consecutive, ih, stop_add_length, and_assoc]
    constructor
    · rintro ⟨rfl,h⟩
      exact ⟨rfl,h⟩
    · rintro ⟨rfl,h⟩
      exact ⟨rfl,h⟩

/-- An opcode in front of its data takes that data and leaves what follows. -/
lemma disassembleFrom_raw_append {i : Instruction} (h : i.IsComplete) (rest : List UInt8) :
    disassembleFrom i.pc (i.raw ++ rest) = i :: disassembleFrom i.stop rest := by
  have hstop : i.stop = i.pc + 1 + i.immediate.length := by
    unfold Instruction.stop Instruction.length
    omega
  rw [Instruction.raw, List.cons_append, disassembleFrom_cons, List.take_left' h,
    List.drop_left' h, hstop]

/-- Complete instructions are found again in front of any bytes. -/
theorem disassembleFrom_assemble_append {pc : Nat} {code : List Instruction}
    (hpc : Consecutive pc code) (hfull : ∀ i ∈ code, i.IsComplete) (rest : List UInt8) :
    disassembleFrom pc (assemble code ++ rest) =
      code ++ disassembleFrom (pc + (assemble code).length) rest := by
  induction code generalizing pc with
  | nil => simp
  | cons i code ih =>
    obtain ⟨rfl,hcode⟩ := hpc
    rw [List.forall_mem_cons] at hfull
    rw [assemble_cons, List.append_assoc, disassembleFrom_raw_append hfull.1, ih hcode hfull.2,
      stop_add_length]
    rfl

/-- Bytes that stand later have the same instructions, later. -/
theorem disassembleFrom_add (pc n : Nat) (bytes : List UInt8) :
    disassembleFrom (pc + n) bytes = (disassembleFrom pc bytes).map (Instruction.shifted n) := by
  fun_induction disassembleFrom pc bytes with
  | case1 => simp
  | case2 pc opcode rest size immediate ih =>
    have hnext : pc + n + 1 + immediate.length = pc + 1 + immediate.length + n := by omega
    rw [disassembleFrom_cons, List.map_cons, ← ih, ← hnext]
    rfl

/-! ## The end of the first part -/

variable {a : List UInt8}

lemma isComplete_of_endsComplete {code : List Instruction} (hcut : WellCut code)
    (h : EndsComplete code) : ∀ i ∈ code, i.IsComplete := by
  have hfront := isComplete_of_mem_dropLast hcut
  rcases List.eq_nil_or_concat' code with rfl | ⟨front,last,rfl⟩
  · simp
  · rw [List.dropLast_concat] at hfront
    rw [List.forall_mem_append, List.forall_mem_singleton]
    exact ⟨hfront,h last (by simp)⟩

/-- Behind a complete instruction, disassembly starts anew. -/
theorem disassemble_append (h : EndsComplete (disassemble a)) (b : List UInt8) :
    disassemble (a ++ b) = disassemble a ++ (disassemble b).map (Instruction.shifted a.length) := by
  have hfull := isComplete_of_endsComplete (wellCut_disassemble a) h
  have hcode := disassembleFrom_assemble_append (consecutive_disassembleFrom 0 a) hfull b
  rw [assemble_disassembleFrom, disassembleFrom_add] at hcode
  exact hcode

/-- Only the last instruction of a part sees what follows the part. -/
lemma exists_last (hne : a ≠ []) : ∃ front last, disassemble a = front ++ [last] ∧
    ∀ b, disassemble (a ++ b) = front ++ disassembleFrom last.pc (last.raw ++ b) := by
  have hbytes := assemble_disassemble a
  rcases List.eq_nil_or_concat' (disassemble a) with hnil | ⟨front,last,hcode⟩
  · rw [hnil] at hbytes
    exact absurd hbytes.symm hne
  have hpc : Consecutive 0 (disassemble a) := consecutive_disassembleFrom 0 a
  have hfull := isComplete_of_mem_dropLast (wellCut_disassemble a)
  rw [hcode] at hbytes hpc hfull
  rw [List.dropLast_concat] at hfull
  obtain ⟨hpc,hlast,-⟩ := consecutive_append.mp hpc
  have hwhole : assemble front ++ last.raw = a := by
    rw [← hbytes]
    simp [assemble]
  refine ⟨front,last,hcode,fun b => ?_⟩
  rw [← hwhole, List.append_assoc, disassemble, disassembleFrom_assemble_append hpc hfull, hlast]

/-- An instruction that lacks data takes some of what follows. -/
lemma isComplete_of_raw_append {i : Instruction} {b : List UInt8} {rest : List Instruction}
    (hne : b ≠ []) (h : disassembleFrom i.pc (i.raw ++ b) = i :: rest) : i.IsComplete := by
  have hpos := List.length_pos_of_ne_nil hne
  rw [Instruction.raw, List.cons_append, disassembleFrom_cons] at h
  have himmediate := congrArg (fun i => i.immediate.length) (List.cons.inj h).1
  simp only [List.length_take, List.length_append] at himmediate
  unfold Instruction.IsComplete
  omega

theorem endsComplete_of_append {b : List UInt8} (hne : b ≠ [])
    (h : disassemble (a ++ b) =
      disassemble a ++ (disassemble b).map (Instruction.shifted a.length)) :
    EndsComplete (disassemble a) := by
  by_cases ha : a = []
  · subst ha
    simp [EndsComplete, disassemble]
  · obtain ⟨front,last,hcode,happend⟩ := exists_last ha
    rw [happend, hcode, List.append_assoc, List.append_cancel_left_eq] at h
    rw [hcode]
    simpa [EndsComplete] using isComplete_of_raw_append hne h

/-- What stands in front of the last instruction of a part stays there whatever follows. -/
theorem isPrefix_dropLast_disassemble (a b : List UInt8) :
    (disassemble a).dropLast <+: disassemble (a ++ b) := by
  by_cases ha : a = []
  · subst ha
    simp [disassemble]
  · obtain ⟨front,last,hcode,happend⟩ := exists_last ha
    rw [hcode, happend, List.dropLast_concat]
    exact List.prefix_append _ _

/-! ## Two parts -/

/-- Moving code does not change what is reported of it. -/
lemma mem_unassigned_append (code more : List Instruction) (n : Nat) (byte : UInt8) :
    byte ∈ unassigned (code ++ more.map (Instruction.shifted n)) ↔
      byte ∈ unassigned code ∨ byte ∈ unassigned more := by
  have hshifted : (∃ i ∈ more.map (Instruction.shifted n), i.opcode = byte) ↔
      ∃ i ∈ more, i.opcode = byte := by
    simp [Instruction.shifted]
  simp only [mem_unassigned_iff, List.mem_append, or_and_right, exists_or, hshifted, ← and_or_left]

/-- The instructions of two parts put together are those of the first part and, moved behind it,
those of the second, exactly if the first part ends with all data of its last instruction or nothing
follows it. The unassigned bytes are then those of both parts. In any case the instructions in front
of the last one of the first part stay as they are. -/
theorem disassemble_append_iff (a b : List UInt8) :
    (disassemble (a ++ b) = disassemble a ++ (disassemble b).map (Instruction.shifted a.length) ↔
      EndsComplete (disassemble a) ∨ b = []) ∧
    (EndsComplete (disassemble a) → ∀ text,
      text ∈ (unassigned (disassemble (a ++ b))).map byteText ↔
        text ∈ (unassigned (disassemble a)).map byteText ∨
          text ∈ (unassigned (disassemble b)).map byteText) ∧
    (disassemble a).dropLast <+: disassemble (a ++ b) := by
  refine ⟨⟨fun h => ?_,?_⟩,fun h text => ?_,isPrefix_dropLast_disassemble a b⟩
  · by_cases hb : b = []
    · exact .inr hb
    · exact .inl (endsComplete_of_append hb h)
  · rintro (h | rfl)
    · exact disassemble_append h b
    · simp [disassemble]
  · simp only [disassemble_append h, List.mem_map, mem_unassigned_append, or_and_right, exists_or]

/-- Two unassigned bytes on either side of a boundary, and a push whose data the next part holds. -/
theorem disassemble_append_iff_pushes :
    EndsComplete (disassemble [0xef,0x60,1]) ∧ ¬EndsComplete (disassemble [0xef,0x61,1]) ∧
      disassemble ([0xef,0x60,1] ++ [0x0c]) =
        disassemble [0xef,0x60,1] ++ (disassemble [0x0c]).map (Instruction.shifted 3) ∧
      disassemble ([0xef,0x61,1] ++ [0x0c]) ≠
        disassemble [0xef,0x61,1] ++ (disassemble [0x0c]).map (Instruction.shifted 3) := by
  have hfull : EndsComplete (disassemble [0xef,0x60,1]) := by decide +kernel
  have hcut : ¬EndsComplete (disassemble [0xef,0x61,1]) := by decide +kernel
  obtain ⟨hboundary,-⟩ := disassemble_append_iff [0xef,0x60,1] [0x0c]
  obtain ⟨hinside,-⟩ := disassemble_append_iff [0xef,0x61,1] [0x0c]
  refine ⟨hfull,hcut,hboundary.mpr (.inl hfull),fun h => ?_⟩
  rcases hinside.mp h with hfull | hnil
  · exact hcut hfull
  · cases hnil

end DeployCheck.Bytecode
