import DeployCheck.Abi.Ty
import DeployCheck.Text.Integer

/-!
ABI values, and what JSON arguments denote. An integer text without a marker is read in base 16 at
the top level and in base 10 inside arrays and tuples.
-/
namespace DeployCheck.Abi

inductive Value where
  | int (value : Int)
  | bool (value : Bool)
  /-- The bytes of an address, of a `bytesN` extended by zeros, or of a `bytes`. -/
  | bytes (bytes : List UInt8)
  | string (text : String)
  /-- The members of an array or tuple. -/
  | list (items : List Value)
deriving Repr

namespace Value

/-- The base of integer texts without a marker. -/
inductive Radix where
  | hex
  | decimal
deriving DecidableEq, Repr

def Radix.base : Radix → Nat
  | .hex => 16
  | .decimal => 10

def integer (radix : Radix) : Json → Except Reason Int
  | .int n => .ok n
  | .float _ => .error .notInteger
  | .str s =>
    match Text.Integer.read radix.base s with
    | some n => .ok n
    | none => .error .notInteger
  | _ => .error .expectedNumber

/-- An integer of `low` or more and below `high`. -/
def integerIn (low high : Int) (radix : Radix) (j : Json) : Except Reason Value := do
  let n ← integer radix j
  if low ≤ n ∧ n < high then return .int n else throw .outOfRange

def boolean : Json → Except Reason Value
  | .bool b => .ok (.bool b)
  | .str s =>
    if s = "true" then .ok (.bool true)
    else if s = "false" then .ok (.bool false)
    else .error .expectedBoolean
  | .int n =>
    if n = 0 then .ok (.bool false) else if n = 1 then .ok (.bool true) else .error .expectedBoolean
  | _ => .error .expectedBoolean

/-- Bytes in strict hexadecimal after one marker. -/
def hexBytes (s : String) : Except Text.Hex.Error (List UInt8) :=
  Text.Hex.decode (String.ofList (Text.Hex.dropMarker s.toList))

/-- Extended by zeros to `size` bytes. -/
def extend (size : Nat) (bs : List UInt8) : List UInt8 :=
  bs ++ List.replicate (size - bs.length) 0

/-- Reads hexadecimal bytes for `ty` and checks them. -/
def readBytes (ty : Ty) (check : List UInt8 → Except Reason Value) (j : Json) :
    Except EncodeError Value :=
  match j with
  | .str s =>
    match hexBytes s with
    | .error e => .error (.hex e)
    | .ok bs =>
      match check bs with
      | .error reason => .error (.invalidValue ty j reason)
      | .ok v => .ok v
  | _ => .error (.invalidValue ty j .expectedHex)

/-- Names the type and the value of a failure. -/
def located (ty : Ty) (j : Json) : Except Reason Value → Except EncodeError Value
  | .ok v => .ok v
  | .error reason => .error (.invalidValue ty j reason)

def addressOf (bs : List UInt8) : Except Reason Value :=
  if bs.length = 20 then .ok (.bytes bs) else .error .addressLength

def fixedBytesOf (size : Nat) (bs : List UInt8) : Except Reason Value :=
  if bs.length ≤ size then .ok (.bytes (extend size bs)) else .error .tooManyBytes

/-- The members of a tuple in the order of its fields, from an array of them or an object. -/
def tupleMembers (fields : List (String × Ty)) (j : Json) : Except EncodeError (List Json) :=
  match j with
  | .arr items =>
    if items.length = fields.length then .ok items
    else .error (.arityMismatch fields.length items.length)
  | .obj _ =>
    fields.mapM fun (name, _) =>
      match j.get? name with
      | some member => .ok member
      | none => .error (.invalidValue (.tuple fields) j (.missingField name))
  | _ => .error (.invalidValue (.tuple fields) j .expectedTuple)

mutual

/-- The value of type `ty` that a JSON argument denotes. -/
def ofJson (ty : Ty) (radix : Radix) (j : Json) : Except EncodeError Value :=
  match ty with
  | .address => readBytes .address addressOf j
  | .bool => located .bool j (boolean j)
  | .uint bits => located (.uint bits) j (integerIn 0 (Nat.pow 2 bits) radix j)
  | .int bits =>
    let bound := Nat.pow 2 (bits - 1)
    located (.int bits) j (integerIn (-bound) bound radix j)
  | .fixedBytes size => readBytes (.fixedBytes size) (fixedBytesOf size) j
  | .bytes => readBytes .bytes (fun bs => .ok (.bytes bs)) j
  | .string =>
    match j with
    | .str s => .ok (.string s)
    | _ => .error (.invalidValue .string j .expectedString)
  | .array item =>
    match j with
    | .arr items => do return .list (← items.mapM (ofJson item .decimal))
    | _ => .error (.invalidValue (.array item) j .expectedArray)
  | .fixedArray item size =>
    match j with
    | .arr items =>
      if items.length = size then do return .list (← items.mapM (ofJson item .decimal))
      else .error (.arityMismatch size items.length)
    | _ => .error (.invalidValue (.fixedArray item size) j .expectedArray)
  | .tuple fields => do
    let members ← tupleMembers fields j
    return .list (← ofMembers fields members)

def ofMembers : List (String × Ty) → List Json → Except EncodeError (List Value)
  | (_, ty) :: fields, j :: rest => do
    let v ← ofJson ty .decimal j
    return v :: (← ofMembers fields rest)
  | _, _ => .ok []

end

/-- The values of top-level arguments, in order. -/
def ofArgs : List Ty → List Json → Except EncodeError (List Value)
  | ty :: tys, j :: rest => do
    let v ← ofJson ty .hex j
    return v :: (← ofArgs tys rest)
  | _, _ => .ok []

end Value

end DeployCheck.Abi
