import DeployCheck.Proofs.Abi.Types
import DeployCheck.Proofs.Abi.Words

/-!
Reading encoded values back. A member of a sequence stands in the head, or the head holds its
offset from the start of the sequence; words and padding that no value has are refused.
-/
namespace DeployCheck.Abi

/-- How a member of a sequence is read, and its size in the head if it stands there. -/
structure Slot where
  size? : Option Nat
  read : List UInt8 → Option Value

namespace Slot

/-- How much of the head a member takes, itself or its offset. -/
def width (slot : Slot) : Nat := slot.size?.getD 32

/-- Reads a member of the sequence at the start of `block`; its part of the head is at
`position`. -/
def fetch (slot : Slot) (block : List UInt8) (position : Nat) : Option Value :=
  match slot.size? with
  | some _ => slot.read (block.drop position)
  | none => (number? (block.drop position)).bind fun offset => slot.read (block.drop offset)

/-- Reads the members whose parts of the head follow one another from `position` on. -/
def fetchAll (block : List UInt8) : Nat → List Slot → Option (List Value)
  | _, [] => some []
  | position, slot :: rest => do
    let v ← slot.fetch block position
    let vs ← fetchAll block (position + slot.width) rest
    return v :: vs

end Slot

namespace Ty

mutual

/-- The size of the values that stand in the head, all of them equally long. -/
def staticSize? : Ty → Option Nat
  | .bytes | .string | .array _ => none
  | .fixedArray item size => (staticSize? item).map (size * ·)
  | .tuple fields => staticSizes? fields
  | _ => some 32

def staticSizes? : List (String × Ty) → Option Nat
  | [] => some 0
  | (_, ty) :: rest => do return (← staticSize? ty) + (← staticSizes? rest)

end

mutual

/-- The value of a type that a block starts with. -/
def decode : Ty → List UInt8 → Option Value
  | .address, block => (paddedLeft? 20 block).map .bytes
  | .bool, block =>
    (number? block).bind fun n =>
      if n = 0 then some (.bool false) else if n = 1 then some (.bool true) else none
  | .uint bits, block => (number? block).bind fun n => if n < 2 ^ bits then some (.int n) else none
  | .int bits, block =>
    ((number? block).map signed).bind fun n =>
      if -2 ^ (bits - 1) ≤ n ∧ n < 2 ^ (bits - 1) then some (.int n) else none
  | .fixedBytes size, block => (paddedRight? size block).map .bytes
  | .bytes, block =>
    (number? block).bind fun size => (paddedRight? size (block.drop 32)).map .bytes
  | .string, block =>
    (number? block).bind fun size => (paddedRight? size (block.drop 32)).map .bytes
  | .array item, block =>
    (number? block).bind fun count =>
      (Slot.fetchAll (block.drop 32) 0
        (List.replicate count ⟨staticSize? item,decode item⟩)).map .list
  | .fixedArray item size, block =>
    (Slot.fetchAll block 0 (List.replicate size ⟨staticSize? item,decode item⟩)).map .list
  | .tuple fields, block => (Slot.fetchAll block 0 (slots fields)).map .list

def slots : List (String × Ty) → List Slot
  | [] => []
  | (_, ty) :: rest => ⟨staticSize? ty,decode ty⟩ :: slots rest

end

/-- The place of a value in a sequence. -/
def slot (ty : Ty) : Slot := ⟨ty.staticSize?,ty.decode⟩

theorem slots_eq_map (fields : List (String × Ty)) :
    slots fields = (fields.map Prod.snd).map slot := by
  induction fields with
  | nil => rfl
  | cons f rest ih => rw [slots, ih, List.map_cons, List.map_cons, slot]

end Ty

/-- The values of the given types that data consist of. -/
def decodeSequence (tys : List Ty) (data : List UInt8) : Option (List Value) :=
  Slot.fetchAll data 0 (tys.map Ty.slot)

namespace Value

mutual

/-- A value with its texts as bytes, the way it stands in encoded data. -/
def contents : Value → Value
  | .int n => .int n
  | .bool b => .bool b
  | .bytes bs => .bytes bs
  | .string s => .bytes s.toUTF8.toList
  | .list vs => .list (allContents vs)

def allContents : List Value → List Value
  | [] => []
  | v :: rest => v.contents :: allContents rest

end

theorem allContents_eq_map (vs : List Value) : allContents vs = vs.map contents := by
  induction vs with
  | nil => rfl
  | cons v rest ih => rw [allContents, ih, List.map_cons]

end Value

end DeployCheck.Abi
