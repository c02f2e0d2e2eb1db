import DeployCheck.Bytecode.Opcode
import DeployCheck.Text.Hex

/-!
Instructions and disassembly. Every byte string disassembles: an unassigned byte is an instruction
of one byte, and a push that runs past the end keeps the data bytes that are there.
-/
namespace DeployCheck.Bytecode

structure Instruction where
  /-- The offset of the opcode. -/
  pc : Nat
  opcode : UInt8
  /-- The data of a push. -/
  immediate : List UInt8
deriving DecidableEq, Repr

namespace Instruction

def mnemonic (i : Instruction) : String := Bytecode.mnemonic i.opcode

def length (i : Instruction) : Nat := 1 + i.immediate.length

/-- The offset just past the instruction. -/
def stop (i : Instruction) : Nat := i.pc + i.length

def raw (i : Instruction) : List UInt8 := i.opcode :: i.immediate

/-- The same bytes, wherever they stand. -/
def sameBytes (i j : Instruction) : Bool := i.opcode == j.opcode && i.immediate == j.immediate

def immediateText (i : Instruction) : String :=
  if i.immediate.isEmpty then "" else "0x" ++ Text.Hex.encode i.immediate

/-- A line of a listing: offset, name, data. -/
def line (i : Instruction) : String :=
  let offset := Text.hexDigits 6 i.pc ++ "  "
  if i.immediate.isEmpty then offset ++ i.mnemonic
  else offset ++ Text.padRight 8 i.mnemonic ++ " " ++ i.immediateText

theorem sameBytes_iff {i j : Instruction} : i.sameBytes j = true ↔ i.raw = j.raw := by
  simp [sameBytes, raw]

@[simp] theorem length_raw (i : Instruction) : i.raw.length = i.length := by
  simp [raw, length, Nat.add_comm]

end Instruction

/-- The instructions of a byte string that starts at offset `pc`. -/
def disassembleFrom (pc : Nat) : List UInt8 → List Instruction
  | [] => []
  | opcode :: rest =>
    let n := immediateSize opcode
    let immediate := rest.take n
    ⟨pc, opcode, immediate⟩ :: disassembleFrom (pc + 1 + immediate.length) (rest.drop n)
termination_by bytes => bytes.length
decreasing_by simp only [List.length_drop, List.length_cons]; omega

def disassemble (bytes : List UInt8) : List Instruction := disassembleFrom 0 bytes

/-- The bytes of a listing. -/
def assemble (code : List Instruction) : List UInt8 := code.flatMap Instruction.raw

/-- The unassigned bytes that stand as opcodes, ascending. -/
def unassigned (code : List Instruction) : List UInt8 :=
  allBytes.filter fun b => (mnemonic? b).isNone && code.any fun i => i.opcode == b

def byteText (b : UInt8) : String := "0x" ++ Text.hexDigits 2 b.toNat

end DeployCheck.Bytecode
