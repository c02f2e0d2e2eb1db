import DeployCheck.Bytecode.Instruction
import DeployCheck.Text.Blank
import DeployCheck.Text.Styled

/-!
Rows of an annotated listing of two instruction streams. A row starts with a marker: a blank for
equal instructions, `!` and `~` for different ones outside and inside an immutable slot, `+` and
`-` where only the actual or only the expected stream goes on.
-/
namespace DeployCheck.Bytecode

open Text (Style Span)

/-- What two streams hold at one index. -/
inductive Pairing where
  | same (both : Instruction)
  | differs (actual expected : Instruction) (tolerated : Bool)
  | actualOnly (actual : Instruction)
  | expectedOnly (expected : Instruction)
deriving DecidableEq, Repr

structure Row where
  index : Nat
  pairing : Pairing
deriving DecidableEq, Repr

namespace Row

/-- The row of an index, if a stream holds an instruction there. -/
def classify? (index : Nat) (actual expected : Option Instruction) (tolerated : Bool) :
    Option Row :=
  match actual, expected with
  | some a, some e => some ⟨index, if a.sameBytes e then .same a else .differs a e tolerated⟩
  | some a, none => some ⟨index, .actualOnly a⟩
  | none, some e => some ⟨index, .expectedOnly e⟩
  | none, none => none

def opcodeCell (i : Instruction) : String := Text.hexDigitsUpper 2 i.opcode.toNat

def nameCell (i : Instruction) : String := Text.padRight 14 i.mnemonic

/-- Opcode, name and data of an instruction in columns. -/
def cells (i : Instruction) : String :=
  opcodeCell i ++ " " ++ nameCell i ++ " " ++ i.immediateText

/-- A text that carries the style where `changed`. -/
def marked (changed : Bool) (style : Style) (text : String) : Span :=
  ⟨text, if changed then some style else none⟩

/-- An expected instruction without column padding. -/
def wanted (i : Instruction) : String :=
  Text.strippedEnd (opcodeCell i ++ " " ++ i.mnemonic ++ " " ++ i.immediateText)

def spans (row : Row) : List Span :=
  let index := Text.hexDigitsUpper 4 row.index ++ " "
  match row.pairing with
  | .same i => [⟨"  " ++ index ++ cells i, none⟩]
  | .differs a e tolerated =>
    let style : Style := if tolerated then .blackOnYellow else .whiteOnRed
    [⟨(if tolerated then "~ " else "! ") ++ index, none⟩,
     marked (a.opcode != e.opcode) style (opcodeCell a), ⟨" ", none⟩,
     marked (a.mnemonic != e.mnemonic) style (nameCell a), ⟨" ", none⟩,
     marked (a.immediate != e.immediate) style a.immediateText, ⟨" | expected ", none⟩,
     ⟨wanted e, some .blackOnGreen⟩]
  | .actualOnly i => [⟨"+ " ++ index, none⟩, ⟨cells i, some .green⟩]
  | .expectedOnly i => [⟨"- " ++ index, none⟩, ⟨cells i, some .red⟩]

def line (color : Bool) (row : Row) : String :=
  Text.strippedEnd (Text.renderSpans color row.spans)

end Row

/-- Explains the markers and colours. -/
def legend (color : Bool) : String :=
  Text.renderSpans color
    [⟨"Legend: ", none⟩, ⟨"! actual differs", some .whiteOnRed⟩, ⟨"  ", none⟩,
     ⟨"~ immutable slot", some .blackOnYellow⟩, ⟨"  ", none⟩,
     ⟨"expected value", some .blackOnGreen⟩, ⟨"  ", none⟩,
     ⟨"- missing in actual", some .red⟩, ⟨"  ", none⟩, ⟨"+ only in actual", some .green⟩]

/-- The lines of rows of which the first index without a gap is `next`; dots mark a gap. -/
def rowLines (color : Bool) : Nat → List Row → List String
  | _, [] => []
  | next, row :: rest =>
    let lines := row.line color :: rowLines color (row.index + 1) rest
    if next < row.index then "..." :: lines else lines

/-- The legend and the rows, each line ended by a line break. -/
def renderRows (color : Bool) (rows : List Row) : String :=
  String.join ((legend color :: rowLines color 0 rows).map (· ++ "\n"))

end DeployCheck.Bytecode
