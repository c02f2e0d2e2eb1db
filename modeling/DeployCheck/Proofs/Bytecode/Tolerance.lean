import DeployCheck.Proofs.Bytecode.Regions
import DeployCheck.Proofs.Bytecode.Verdict

/-! Where tolerated differences lie when each immutable slot is the data of one push, the form that
compilers report. Tolerance is granted to a whole instruction, so its bytes stay inside the slots
only as long as the opcode and the number of bytes are kept. -/
namespace DeployCheck.Bytecode

open Text

namespace Immutables

/-- Every region is the whole data of a push of the code. -/
def AreOperands (refs : Immutables) (code : List Instruction) : Prop :=
  ∀ r ∈ refs, ∃ e ∈ code, isPush e.opcode = true ∧ e.IsComplete ∧
    r = (e.pc + 1,immediateSize e.opcode)

instance (refs : Immutables) (code : List Instruction) : Decidable (refs.AreOperands code) := by
  unfold AreOperands; infer_instance

end Immutables

namespace Instruction

/-- The same opcode and as many bytes. -/
def SameShape (a e : Instruction) : Prop := a.opcode = e.opcode ∧ a.length = e.length

end Instruction

lemma immediateSize_pos {b : UInt8} (h : isPush b = true) : 0 < immediateSize b := by
  have hle : (0x60 : UInt8).toNat ≤ b.toNat := by
    simp only [isPush, Bool.and_eq_true, decide_eq_true_eq] at h
    exact UInt8.le_iff_toNat_le.mp h.1
  change 96 ≤ b.toNat at hle
  rw [immediateSize, if_pos h]
  omega

section Operands

variable {refs : Immutables} {pc : Nat} {code : List Instruction} {e : Instruction}

/-- An instruction that meets a slot is the push whose data the slot is. -/
theorem operand_of_overlaps (hrefs : refs.AreOperands code) (hpc : Consecutive pc code)
    (he : e ∈ code) (h : refs.overlaps e.pc e.length = true) :
    isPush e.opcode = true ∧ e.IsComplete ∧ (e.pc + 1,immediateSize e.opcode) ∈ refs := by
  obtain ⟨r,hr,hlo,hhi⟩ := Immutables.exists_of_overlaps h
  obtain ⟨push,hmem,hpush,hfull,rfl⟩ := hrefs r hr
  have hstop := stop_of_isComplete hfull
  have hend : e.stop = e.pc + e.length := rfl
  have hlen : 0 < e.length := by unfold Instruction.length; omega
  have hsize := immediateSize_pos hpush
  simp only at hlo hhi
  -- the later of the two starts lies in both spans
  have hsame : push = e := by
    by_cases hle : e.pc ≤ push.pc
    · exact eq_of_common_position hpc hmem he (push.pc + 1) ⟨by omega,by omega⟩ ⟨by omega,by omega⟩
    · exact eq_of_common_position hpc hmem he e.pc ⟨by omega,by omega⟩ ⟨by omega,by omega⟩
  subst hsame
  exact ⟨hpush,hfull,hr⟩

/-- No slot holds an opcode. -/
theorem not_covers_pc (hrefs : refs.AreOperands code) (hpc : Consecutive pc code) (he : e ∈ code) :
    ¬refs.Covers e.pc := by
  rintro ⟨r,hr,hlo,hhi⟩
  obtain ⟨push,hmem,-,hfull,rfl⟩ := hrefs r hr
  have hstop := stop_of_isComplete hfull
  have hend : e.stop = e.pc + (1 + e.immediate.length) := rfl
  simp only at hlo hhi
  have hsame : push = e :=
    eq_of_common_position hpc hmem he e.pc ⟨by omega,by omega⟩ ⟨by omega,by omega⟩
  subst hsame
  omega

end Operands

section Layout

variable {refs : Immutables} {pc : Nat} {code expected : List Instruction}

lemma getElem?_raw_append (i : Instruction) (rest : List UInt8) (n : Nat) :
    (i.raw ++ rest)[i.length + n]? = rest[n]? := by
  rw [List.getElem?_append_right (by simp)]
  simp

/-- Where every pair has the same shape and differing pairs have their data in a slot, the bytes
differ only inside slots. -/
theorem covers_of_sameShape (hpc : Consecutive pc expected)
    (h : List.Forall₂ (fun a e => a.SameShape e ∧
      (a.raw ≠ e.raw → (e.pc + 1,e.immediate.length) ∈ refs)) code expected) :
    (assemble code).length = (assemble expected).length ∧
      ∀ n, (assemble code)[n]? ≠ (assemble expected)[n]? → refs.Covers (pc + n) := by
  induction h generalizing pc with
  | nil => simp
  | @cons a e code expected hhead _ ih =>
    obtain ⟨⟨hop,hlen⟩,hslot⟩ := hhead
    obtain ⟨rfl,hrest⟩ := hpc
    obtain ⟨ihlen,ihdiff⟩ := ih hrest
    refine ⟨by simp [hlen, ihlen],?_⟩
    intro n hn
    simp only [assemble_cons] at hn
    by_cases hlt : n < e.length
    · -- inside the pair: the opcodes agree, so the data differ
      rw [List.getElem?_append_left (by simpa [hlen] using hlt),
        List.getElem?_append_left (by simpa using hlt)] at hn
      have hpos : n ≠ 0 := by
        rintro rfl
        exact hn (by simp [Instruction.raw, hop])
      have hne : a.raw ≠ e.raw := fun heq => hn (by rw [heq])
      refine ⟨_,hslot hne,?_,?_⟩ <;> unfold Instruction.length at hlt <;> simp only <;> omega
    · obtain ⟨m,rfl⟩ : ∃ m, n = e.length + m := ⟨n - e.length,by omega⟩
      rw [getElem?_raw_append, ← hlen, getElem?_raw_append] at hn
      have := ihdiff m hn
      rwa [Instruction.stop, Nat.add_assoc] at this

/-- Where the bytes differ only inside slots and no slot holds an opcode, every pair has the same
shape: two cuts with the same opcode at the same position go on at the same position. -/
theorem sameShape_of_covers (hcode : WellCut code) (hexpected : WellCut expected)
    (hpc : Consecutive pc expected) (hstart : ∀ e ∈ expected, ¬refs.Covers e.pc)
    (hcount : code.length = expected.length)
    (hlen : (assemble code).length = (assemble expected).length)
    (hdiff : ∀ n, (assemble code)[n]? ≠ (assemble expected)[n]? → refs.Covers (pc + n)) :
    List.Forall₂ Instruction.SameShape code expected := by
  induction code generalizing pc expected with
  | nil =>
    obtain rfl : expected = [] := List.length_eq_zero_iff.mp hcount.symm
    exact .nil
  | cons a code ih =>
    cases expected with
    | nil => simp at hcount
    | cons e expected =>
      obtain ⟨rfl,hrest⟩ := hpc
      have hop : a.opcode = e.opcode := by
        by_contra hne
        refine hstart e (by simp) ?_
        simpa using hdiff 0 (by simpa [Instruction.raw] using hne)
      have hsame : a.length = e.length := by
        cases code with
        | nil =>
          obtain rfl : expected = [] := List.length_eq_zero_iff.mp (by simpa using hcount.symm)
          simpa using hlen
        | cons b code =>
          have hne : expected ≠ [] := by
            rintro rfl
            simp at hcount
          have ha : a.IsComplete := hcode.2.1 (by simp)
          have he : e.IsComplete := hexpected.2.1 hne
          rw [Instruction.IsComplete] at ha he
          rw [Instruction.length, Instruction.length, ha, he, hop]
      refine .cons ⟨hop,hsame⟩ ?_
      refine ih hcode.2.2 hexpected.2.2 hrest (fun y hy => hstart y (by simp [hy]))
        (by simpa using hcount) (by simpa [hsame] using hlen) ?_
      intro n hn
      have := hdiff (e.length + n) (by
        rw [assemble_cons, assemble_cons, getElem?_raw_append, ← hsame, getElem?_raw_append]
        exact hn)
      rwa [Instruction.stop, Nat.add_assoc]

end Layout

/-- Instructions that differ between agreeing codes are tolerated, and the expected one is a push
whose data is a slot. -/
theorem operand_of_differs {refs : Immutables} {actual expected : List UInt8}
    (hrefs : refs.AreOperands (disassemble expected)) (hagree : AgreesOutside refs actual expected)
    {i : Nat} {a e : Instruction} (ha : (disassemble actual)[i]? = some a)
    (he : (disassemble expected)[i]? = some e) (hne : a.raw ≠ e.raw) :
    refs.overlaps e.pc e.length = true ∧ isPush e.opcode = true ∧ e.IsComplete ∧
      (e.pc + 1,immediateSize e.opcode) ∈ refs := by
  have hpairs := (forall₂_iff_getElem?.mp ((agreesOutside_iff _ _ _).mp hagree)).2
  have hover : refs.overlaps e.pc e.length = true := by
    by_contra hnot
    exact hne (hpairs i a e ha he (by simpa using hnot))
  exact ⟨hover,operand_of_overlaps hrefs (consecutive_disassembleFrom 0 _)
    (List.mem_of_getElem? he) hover⟩

lemma sameShape_of_raw_eq {a e : Instruction} (h : a.raw = e.raw) : a.SameShape e := by
  refine ⟨(Instruction.raw_injective_opcode h).1,?_⟩
  rw [← Instruction.length_raw, ← Instruction.length_raw, h]

/-- Slots that are the data of pushes tolerate those pushes only. The two codes are then equally
long and differ nowhere but in slots exactly if every tolerated pair has the same shape. -/
theorem differences_in_slots_iff {context : Nat} {refs : Immutables} {actual expected : String}
    {p q : List UInt8} {c : Comparison} (hp : Hex.read actual = .ok p)
    (hq : Hex.read expected = .ok q) (hrefs : refs.AreOperands (disassemble (trim q).code))
    (h : evaluate context refs actual expected = .ok c) (honly : c.verdict = .immutableOnly) :
    List.Forall₂ (fun a e => a.raw = e.raw ∨
        (isPush e.opcode = true ∧ (e.pc + 1,immediateSize e.opcode) ∈ refs))
      (disassemble (trim p).code) (disassemble (trim q).code) ∧
    (((trim p).code.length = (trim q).code.length ∧
        ∀ n, (trim p).code[n]? ≠ (trim q).code[n]? → refs.Covers n) ↔
      ∀ i ∈ c.immutableMismatches, ∀ a e, (disassemble (trim p).code)[i]? = some a →
        (disassemble (trim q).code)[i]? = some e → a.SameShape e) := by
  obtain ⟨diff,hc⟩ := exists_evaluate context refs hp hq
  obtain rfl : c = _ := Except.ok.inj (h.symm.trans hc)
  have hpc : Consecutive 0 (disassemble (trim q).code) := consecutive_disassembleFrom _ _
  have hagree := ((verdict_eq_immutableOnly_iff _ _ _ _).mp honly).2.2
  have hcount := (forall₂_iff_getElem?.mp ((agreesOutside_iff _ _ _).mp hagree)).1
  refine ⟨forall₂_iff_getElem?.mpr ⟨hcount,?_⟩,?_,?_⟩
  · intro i a e ha he
    by_cases hraw : a.raw = e.raw
    · exact Or.inl hraw
    · obtain ⟨-,hpush,-,hmem⟩ := operand_of_differs hrefs hagree ha he hraw
      exact Or.inr ⟨hpush,hmem⟩
  · rintro ⟨hlen,hdiff⟩ i - a e ha he
    have hshape : List.Forall₂ Instruction.SameShape (disassemble (trim p).code)
        (disassemble (trim q).code) := by
      refine sameShape_of_covers (wellCut_disassemble _) (wellCut_disassemble _) hpc
        (fun e he => not_covers_pc hrefs hpc he) hcount ?_ ?_
      · simpa [assemble_disassemble] using hlen
      · simpa [assemble_disassemble] using hdiff
    exact (forall₂_iff_getElem?.mp hshape).2 i a e ha he
  · intro hshape
    have hall : List.Forall₂ (fun a e => a.SameShape e ∧
        (a.raw ≠ e.raw → (e.pc + 1,e.immediate.length) ∈ refs))
        (disassemble (trim p).code) (disassemble (trim q).code) := by
      refine forall₂_iff_getElem?.mpr ⟨hcount,?_⟩
      intro i a e ha he
      by_cases hraw : a.raw = e.raw
      · exact ⟨sameShape_of_raw_eq hraw,fun hne => absurd hraw hne⟩
      · obtain ⟨hover,-,hfull,hmem⟩ := operand_of_differs hrefs hagree ha he hraw
        have hi : i ∈ (comparisonOf refs (trim p) (trim q) diff).immutableMismatches :=
          List.mem_filter.mpr ⟨(mem_mismatches_iff _ _ _).mpr ⟨a,e,ha,he,hraw⟩,
            (isTolerated_iff _ _ _).mpr ⟨e,he,hover⟩⟩
        refine ⟨hshape i hi a e ha he,fun _ => ?_⟩
        rw [hfull]
        exact hmem
    simpa [assemble_disassemble] using covers_of_sameShape hpc hall

/-- A slot filled in under an unchanged push. -/
theorem differences_in_slots_iff_filled :
    ∃ c, Hex.read "0x60015000" = .ok [0x60,1,0x50,0] ∧
      Hex.read "0x60005000" = .ok [0x60,0,0x50,0] ∧
      Immutables.AreOperands [(1,1)] (disassemble (trim [0x60,0,0x50,0]).code) ∧
      evaluate 3 [(1,1)] "0x60015000" "0x60005000" = .ok c ∧ c.verdict = .immutableOnly ∧
      List.Forall₂ (fun a e => a.raw = e.raw ∨
          (isPush e.opcode = true ∧ (e.pc + 1,immediateSize e.opcode) ∈ [(1,1)]))
        (disassemble (trim [0x60,1,0x50,0]).code) (disassemble (trim [0x60,0,0x50,0]).code) ∧
      (((trim [0x60,1,0x50,0]).code.length = (trim [0x60,0,0x50,0]).code.length ∧
          ∀ n, (trim [0x60,1,0x50,0]).code[n]? ≠ (trim [0x60,0,0x50,0]).code[n]? →
            Immutables.Covers [(1,1)] n) ↔
        ∀ i ∈ c.immutableMismatches, ∀ a e,
          (disassemble (trim [0x60,1,0x50,0]).code)[i]? = some a →
          (disassemble (trim [0x60,0,0x50,0]).code)[i]? = some e → a.SameShape e) := by
  have hp : Hex.read "0x60015000" = .ok [0x60,1,0x50,0] := rfl
  have hq : Hex.read "0x60005000" = .ok [0x60,0,0x50,0] := rfl
  have hrefs : Immutables.AreOperands [(1,1)] (disassemble (trim [0x60,0,0x50,0]).code) := by
    decide +kernel
  obtain ⟨diff,hc⟩ := exists_evaluate 3 [(1,1)] hp hq
  have honly : (comparisonOf [(1,1)] (trim [0x60,1,0x50,0]) (trim [0x60,0,0x50,0]) none).verdict =
      .immutableOnly := by decide +kernel
  exact ⟨_,hp,hq,hrefs,hc,honly,differences_in_slots_iff hp hq hrefs hc honly⟩

/-- A jump target in place of the push whose data is a slot is tolerated, though it is shorter. -/
theorem tolerated_jumpdest :
    ∃ c, evaluate 3 [(1,1)] "0x5b5000" "0x60005000" = .ok c ∧ c.verdict = .immutableOnly ∧
      Hex.read "0x5b5000" = .ok [0x5b,0x50,0] ∧ Hex.read "0x60005000" = .ok [0x60,0,0x50,0] ∧
      (trim [0x5b,0x50,0]).literal = [] ∧ (trim [0x60,0,0x50,0]).literal = [] ∧
      Immutables.AreOperands [(1,1)] (disassemble (trim [0x60,0,0x50,0]).code) ∧
      (trim [0x5b,0x50,0]).code.length ≠ (trim [0x60,0,0x50,0]).code.length ∧
      (trim [0x5b,0x50,0]).code[0]? ≠ (trim [0x60,0,0x50,0]).code[0]? ∧
      ¬Immutables.Covers [(1,1)] 0 := by
  have hp : Hex.read "0x5b5000" = .ok [0x5b,0x50,0] := rfl
  have hq : Hex.read "0x60005000" = .ok [0x60,0,0x50,0] := rfl
  obtain ⟨diff,hc⟩ := exists_evaluate 3 [(1,1)] hp hq
  have honly : (comparisonOf [(1,1)] (trim [0x5b,0x50,0]) (trim [0x60,0,0x50,0]) none).verdict =
      .immutableOnly := by decide +kernel
  exact ⟨_,hc,honly,hp,hq,by decide,by decide,by decide +kernel,by decide,by decide,
    by simp [Immutables.Covers]⟩

end DeployCheck.Bytecode
