import DeployCheck.Bytecode.Immutables
import DeployCheck.Bytecode.Row
import DeployCheck.Bytecode.Trimmed

/-!
Comparison of deployed code with the code it should be. Both sides are trimmed, disassembled and
paired by index; a difference is tolerated where the expected instruction meets an immutable slot.
-/
namespace DeployCheck.Bytecode

open Text

inductive Verdict where
  | fullMatch
  | immutableOnly
  | realMismatch
deriving DecidableEq, Repr

inductive CompareError where
  | differentLength (actual expected : Nat)
  | notOnImmutable (count : Nat)
  | literalMismatch (actual expected : String)
  /-- An index shown that neither side reaches. -/
  | invalidDifference (index : Nat)
  | decode (cause : Hex.Error)
deriving DecidableEq, Repr

/-- The text for a side that is no hexadecimal code. -/
def decodeMessage (e : Hex.Error) : String := "hex decode failed: " ++ e.message

def CompareError.message : CompareError → String
  | .differentLength a e => s!"bytecodes have different length: {a} vs {e} instructions"
  | .notOnImmutable n =>
    s!"bytecodes have differences not on the immutable reference position ({n} instructions)"
  | .literalMismatch a e =>
    "string literal mismatch: " ++ Quoted.text a ++ " != " ++ Quoted.text e
  | .invalidDifference i => s!"Invalid bytecode difference data at index {i}"
  | .decode e => "decode error: " ++ decodeMessage e

structure Comparison where
  actualLength : Nat
  expectedLength : Nat
  /-- Paired indices that differ and meet an immutable slot. -/
  immutableMismatches : List Nat
  /-- Paired indices that differ elsewhere. -/
  realMismatches : List Nat
  unassigned : List UInt8
  actualLiteral : String
  expectedLiteral : String
  /-- The rows to show, unless the streams are equal. -/
  diff : Option (List Row)
deriving DecidableEq, Repr

namespace Comparison

def lengthMismatch (c : Comparison) : Bool := c.actualLength != c.expectedLength

/-- Literals conflict only where both sides have one. -/
def literalMismatch (c : Comparison) : Bool :=
  c.actualLiteral != "" && c.expectedLiteral != "" && c.actualLiteral != c.expectedLiteral

/-- Why the comparison fails, if it does. -/
def failure? (c : Comparison) : Option CompareError :=
  if c.lengthMismatch then some (.differentLength c.actualLength c.expectedLength)
  else if !c.realMismatches.isEmpty then some (.notOnImmutable c.realMismatches.length)
  else if c.literalMismatch then some (.literalMismatch c.actualLiteral c.expectedLiteral)
  else none

def verdict (c : Comparison) : Verdict :=
  if c.lengthMismatch || !c.realMismatches.isEmpty || c.literalMismatch then .realMismatch
  else if !c.immutableMismatches.isEmpty then .immutableOnly
  else .fullMatch

def result (c : Comparison) : Except CompareError Verdict :=
  match c.failure? with
  | some e => .error e
  | none => .ok c.verdict

/-- The annotated listing. -/
def diffText? (color : Bool) (c : Comparison) : Option String := c.diff.map (renderRows color)

end Comparison

/-- The paired indices whose instructions differ, ascending. -/
def mismatches (actual expected : List Instruction) : List Nat :=
  ((actual.zip expected).zipIdx.filter fun ((a, e), _) => !a.sameBytes e).map Prod.snd

/-- Whether the expected instruction at an index meets an immutable slot. -/
def isTolerated (refs : Immutables) (expected : List Instruction) (index : Nat) : Bool :=
  match expected[index]? with
  | some e => refs.overlaps e.pc e.length
  | none => false

/-- Without adjacent repetitions. -/
def dropRepeats : List Nat → List Nat
  | [] => []
  | [n] => [n]
  | n :: m :: rest => if n = m then dropRepeats (m :: rest) else n :: dropRepeats (m :: rest)

/-- The distinct numbers of a list, ascending. -/
def ascending (ns : List Nat) : List Nat := dropRepeats (ns.mergeSort (· ≤ ·))

/-- The indices always shown: the differences, the first index and the last of each side. -/
def checkpoints (mismatches : List Nat) (actualLength expectedLength : Nat) : List Nat :=
  let last (n : Nat) : List Nat := if n = 0 then [] else [n - 1]
  0 :: mismatches ++ last actualLength ++ last expectedLength

/-- The indices at most `context` away from `center` and below `bound`. -/
def window (context bound center : Nat) : List Nat :=
  let lo := center - context
  (List.range (min (center + context + 1) bound - lo)).map (lo + ·)

/-- The indices to show: the checkpoints and, where both sides go on, their neighbours. -/
def displayIndices (mismatches : List Nat) (actualLength expectedLength context : Nat) :
    List Nat :=
  let marks := checkpoints mismatches actualLength expectedLength
  ascending (marks ++ marks.flatMap (window context (min actualLength expectedLength)))

/-- The rows at the given indices. -/
def rowsAt (actual expected : List Instruction) (tolerated : List Nat) (indices : List Nat) :
    Except CompareError (List Row) :=
  indices.mapM fun i =>
    match Row.classify? i actual[i]? expected[i]? (tolerated.contains i) with
    | some row => .ok row
    | none => .error (.invalidDifference i)

/-- Compares two trimmed codes. -/
def compareTrimmed (refs : Immutables) (context : Nat) (actual expected : Trimmed) :
    Except CompareError Comparison := do
  let a := disassemble actual.code
  let e := disassemble expected.code
  let different := mismatches a e
  let (tolerated, real) := different.partition (isTolerated refs e)
  let diff ←
    if different.isEmpty && a.length == e.length then pure none
    else
      let indices := displayIndices different a.length e.length context
      some <$> rowsAt a e tolerated indices
  return {
    actualLength := a.length
    expectedLength := e.length
    immutableMismatches := tolerated
    realMismatches := real
    unassigned := unassigned (a ++ e)
    actualLiteral := actual.literalText
    expectedLiteral := expected.literalText
    diff }

def readTrimmed (text : String) : Except CompareError Trimmed :=
  match Hex.read text with
  | .ok bytes => .ok (trim bytes)
  | .error e => .error (.decode e)

/-- The number of instructions shown around a difference unless asked otherwise. -/
def defaultContext : Nat := 3

/-- Compares two codes given as hexadecimal text; the actual side is read first. -/
def evaluate (context : Nat) (refs : Immutables) (actual expected : String) :
    Except CompareError Comparison := do
  let a ← readTrimmed actual
  let e ← readTrimmed expected
  compareTrimmed refs context a e

/-- The verdict of a comparison, or why it fails. -/
def compare (refs : Immutables) (actual expected : String) : Except CompareError Verdict := do
  (← evaluate defaultContext refs actual expected).result

end DeployCheck.Bytecode
