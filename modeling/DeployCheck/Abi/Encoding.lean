import DeployCheck.Abi.Value

/-!
The head/tail encoding of ABI values. A static value stands in the head of its sequence; a dynamic
one leaves an offset there and is appended to the tail.
-/
namespace DeployCheck.Abi

/-- A number in 32 bytes, most significant first. -/
def word (n : Nat) : List UInt8 :=
  (List.range 32).map fun i => UInt8.ofNat (n / Nat.pow 256 (31 - i))

/-- An integer in two's complement. -/
def intWord (n : Int) : List UInt8 := word (n % (Nat.pow 2 256 : Nat)).toNat

def padLeft (bytes : List UInt8) : List UInt8 :=
  List.replicate (32 - bytes.length) 0 ++ bytes

/-- Extended by zeros to a whole number of words. -/
def padRight (bytes : List UInt8) : List UInt8 :=
  bytes ++ List.replicate ((32 - bytes.length % 32) % 32) 0

def withLength (bytes : List UInt8) : List UInt8 := word bytes.length ++ padRight bytes

/-- An encoded member of a sequence. -/
structure Part where
  isDynamic : Bool
  headSize : Nat
  bytes : List UInt8
deriving DecidableEq, Repr

namespace Part

/-- How long the heads of parts are together. -/
def headLength : List Part → Nat
  | [] => 0
  | p :: rest => p.headSize + headLength rest

/-- The heads of parts of which the first tail starts at `offset`. -/
def heads : Nat → List Part → List UInt8
  | _, [] => []
  | offset, p :: rest =>
    if p.isDynamic then word offset ++ heads (offset + p.bytes.length) rest
    else p.bytes ++ heads offset rest

def tails (parts : List Part) : List UInt8 :=
  (parts.filter (·.isDynamic)).flatMap (·.bytes)

/-- The encoding of a sequence. -/
def join (parts : List Part) : List UInt8 :=
  heads (headLength parts) parts ++ tails parts

end Part

namespace Value

mutual

/-- The encoding of a value of type `ty`. -/
def encode : Ty → Value → List UInt8
  | .uint _, .int n => intWord n
  | .int _, .int n => intWord n
  | .bool, .bool b => word b.toNat
  | .address, .bytes bs => padLeft bs
  | .fixedBytes _, .bytes bs => padRight bs
  | .bytes, .bytes bs => withLength bs
  | .string, .string s => withLength s.toUTF8.toList
  | .array item, .list vs =>
    word vs.length ++
      Part.join (vs.map fun v => ⟨item.isDynamic, item.headSize, encode item v⟩)
  | .fixedArray item _, .list vs =>
    Part.join (vs.map fun v => ⟨item.isDynamic, item.headSize, encode item v⟩)
  | .tuple fields, .list vs => Part.join (parts fields vs)
  | _, _ => []

def parts : List (String × Ty) → List Value → List Part
  | (_, ty) :: fields, v :: vs => ⟨ty.isDynamic, ty.headSize, encode ty v⟩ :: parts fields vs
  | _, _ => []

end

/-- The encoding of a sequence of values of the given types. -/
def encodeSequence (tys : List Ty) (vs : List Value) : List UInt8 :=
  Part.join (parts (tys.map fun ty => ("", ty)) vs)

end Value

/-- The encoding of constructor arguments, one per input. -/
def encodeArguments (inputs : List Param) (args : List Json) :
    Except EncodeError (List UInt8) := do
  if inputs.length ≠ args.length then throw (.arityMismatch inputs.length args.length)
  let tys ← inputs.mapM Ty.ofParam
  let vs ← Value.ofArgs tys args
  return Value.encodeSequence tys vs

/-- The constructor entry of an ABI, the first one if there are several. -/
def constructorEntry? (abi : Json) : Option Json :=
  (abi.asArray?.getD []).find? fun e => e.string? "type" == some "constructor"

/-- The inputs of an ABI's constructor, if it takes any; the outer `none` means that they are no
list of parameters. -/
def constructorInputs? (abi : Json) : Option (Option (List Param)) :=
  match constructorEntry? abi with
  | none => some none
  | some entry =>
    match entry.get? "inputs" with
    | none => some none
    | some inputs =>
      (Param.listOfJson inputs).map fun ps => if ps.isEmpty then none else some ps

end DeployCheck.Abi
