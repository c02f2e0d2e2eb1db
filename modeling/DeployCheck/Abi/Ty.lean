import DeployCheck.Json.Printer
import DeployCheck.Json.Record
import DeployCheck.Text.Blank
import DeployCheck.Text.Hex
import DeployCheck.Text.Split

/-!
ABI types and their written form. `Ty.parse` reads the kind of a parameter, whose components give
the fields where the kind is a tuple; `Ty.text` writes the canonical type.
-/
namespace DeployCheck.Abi

/-- An entry of an ABI's `inputs` or `components`. -/
structure Param where
  name : String
  kind : String
  components : List Param
deriving Repr

inductive Ty where
  | address
  | bool
  | uint (bits : Nat)
  | int (bits : Nat)
  | fixedBytes (size : Nat)
  | bytes
  | string
  | array (item : Ty)
  | fixedArray (item : Ty) (size : Nat)
  | tuple (fields : List (String × Ty))
deriving Repr

/-- Why a value does not conform to a type. -/
inductive Reason where
  | expectedHex
  | addressLength
  | expectedBoolean
  | expectedNumber
  | notInteger
  | outOfRange
  | tooManyBytes
  | expectedString
  | expectedArray
  | missingField (name : String)
  | expectedTuple
deriving DecidableEq, Repr

def Reason.message : Reason → String
  | .expectedHex => "expected a hex string"
  | .addressLength => "address must be 20 bytes"
  | .expectedBoolean => "expected a boolean"
  | .expectedNumber => "expected a number"
  | .notInteger => "not an integer"
  | .outOfRange => "out of range"
  | .tooManyBytes => "too many bytes"
  | .expectedString => "expected a string"
  | .expectedArray => "expected an array"
  | .missingField name => "missing field \x60" ++ name ++ "\x60"
  | .expectedTuple => "expected a tuple"

inductive EncodeError where
  | unknownType (text : String)
  | invalidValue (ty : Ty) (value : Json) (reason : Reason)
  | arityMismatch (expected actual : Nat)
  | hex (cause : Text.Hex.Error)

namespace Ty

mutual

/-- The canonical type; a tuple lists the types of its fields in parentheses. -/
def text : Ty → String
  | .address => "address"
  | .bool => "bool"
  | .uint bits => "uint" ++ toString bits
  | .int bits => "int" ++ toString bits
  | .fixedBytes size => "bytes" ++ toString size
  | .bytes => "bytes"
  | .string => "string"
  | .array item => item.text ++ "[]"
  | .fixedArray item size => item.text ++ "[" ++ toString size ++ "]"
  | .tuple fields => "(" ++ String.intercalate "," (fieldTexts fields) ++ ")"

def fieldTexts : List (String × Ty) → List String
  | [] => []
  | (_, ty) :: rest => ty.text :: fieldTexts rest

end

mutual

/-- Whether values are encoded behind an offset. -/
def isDynamic : Ty → Bool
  | .bytes | .string | .array _ => true
  | .fixedArray item _ => item.isDynamic
  | .tuple fields => anyDynamic fields
  | _ => false

def anyDynamic : List (String × Ty) → Bool
  | [] => false
  | (_, ty) :: rest => ty.isDynamic || anyDynamic rest

end

mutual

/-- The size that a value takes in the head of a sequence. -/
def headSize : Ty → Nat
  | .fixedArray item size => if item.isDynamic then 32 else item.headSize * size
  | .tuple fields => if anyDynamic fields then 32 else headSizes fields
  | _ => 32

def headSizes : List (String × Ty) → Nat
  | [] => 0
  | (_, ty) :: rest => ty.headSize + headSizes rest

end

/-- A width of 8 to 256 bits in whole bytes. -/
def width? (cs : List Char) : Option Nat :=
  (Text.natBelow 10 Text.wordBound cs).filter fun n => 8 ≤ n ∧ n ≤ 256 ∧ n % 8 = 0

def byteCount? (cs : List Char) : Option Nat :=
  (Text.natBelow 10 Text.wordBound cs).filter fun n => 1 ≤ n ∧ n ≤ 32

/-- An elementary type. -/
def elementary? (cs : List Char) : Option Ty :=
  if cs = "address".toList then some .address
  else if cs = "bool".toList then some .bool
  else if cs = "string".toList then some .string
  else if cs = "bytes".toList then some .bytes
  else if cs = "uint".toList then some (.uint 256)
  else if cs = "int".toList then some (.int 256)
  else
    (((Text.after? "uint".toList cs).bind width?).map .uint) <|>
      (((Text.after? "int".toList cs).bind width?).map .int) <|>
      (((Text.after? "bytes".toList cs).bind byteCount?).map .fixedBytes)

/-- The last pair of brackets of a reversed text: the element's text, reversed, and the size's. -/
def lastBrackets? : List Char → Option (List Char × List Char)
  | ']' :: body =>
    match body.dropWhile (· != '[') with
    | '[' :: element => some (element, (body.takeWhile (· != '[')).reverse)
    | _ => none
  | _ => none

theorem length_of_lastBrackets? {cs element size : List Char}
    (h : lastBrackets? cs = some (element, size)) : element.length < cs.length := by
  unfold lastBrackets? at h
  split at h
  · next body =>
    have hle := (List.dropWhile_sublist (p := (· != '[')) (l := body)).length_le
    split at h
    · next he =>
      simp only [Option.some.injEq, Prod.mk.injEq] at h
      obtain ⟨rfl, _⟩ := h
      rw [he] at hle
      simp only [List.length_cons] at hle ⊢
      omega
    · simp at h
  · simp at h

/-- An array suffix: the whole text up to its end and the text of its size. -/
abbrev Suffix := String × List Char

/-- The base kind of a reversed text and its array suffixes, innermost first. Blanks around an
element's text do not count. -/
def splitSuffixes (reversed : List Char) (outer : List Suffix) :
    Except EncodeError (List Char × List Suffix) :=
  let kind := (Text.trim reversed).reverse
  match _h : lastBrackets? (Text.trim reversed) with
  | some (element, size) => splitSuffixes element ((String.ofList kind, size) :: outer)
  | none =>
    if (Text.trim reversed).head? = some ']' then .error (.unknownType (String.ofList kind))
    else .ok (kind, outer)
termination_by reversed.length
decreasing_by
  have h1 := length_of_lastBrackets? _h
  have h2 : (Text.trim reversed).length ≤ reversed.length := by
    unfold Text.trim Text.trimEnd Text.trimStart
    have := (List.dropWhile_sublist (p := Text.isBlank) (l := reversed)).length_le
    have := (List.dropWhile_sublist (p := Text.isBlank)
      (l := (reversed.dropWhile Text.isBlank).reverse)).length_le
    simp only [List.length_reverse] at *
    omega
  omega

/-- An array of `item` with a written size. -/
def wrap (item : Ty) : Suffix → Except EncodeError Ty
  | (_, []) => .ok (.array item)
  | (kind, size) =>
    match Text.natBelow 10 Text.wordBound size with
    | some n => .ok (.fixedArray item n)
    | none => .error (.unknownType kind)

mutual

/-- The type of a parameter. -/
def ofParam : Param → Except EncodeError Ty
  | ⟨_, kind, components⟩ => do
    let (base, suffixes) ← splitSuffixes kind.toList.reverse []
    let item ←
      if base = "tuple".toList then Ty.tuple <$> ofComponents components
      else match elementary? base with
        | some ty => pure ty
        | none => throw (.unknownType (String.ofList base))
    suffixes.foldlM wrap item

def ofComponents : List Param → Except EncodeError (List (String × Ty))
  | [] => .ok []
  | p :: rest => do
    let ty ← ofParam p
    return (p.name, ty) :: (← ofComponents rest)

end

/-- The type of a kind with components. -/
def parse (kind : String) (components : List Param) : Except EncodeError Ty :=
  ofParam ⟨"", kind, components⟩

end Ty

def EncodeError.message : EncodeError → String
  | .unknownType text => "unknown ABI type: " ++ text
  | .invalidValue ty value reason =>
    s!"invalid value for {ty.text}: {reason.message} (got {value.compact})"
  | .arityMismatch expected actual => s!"expected {expected} values, got {actual}"
  | .hex cause => "hex decode error: " ++ cause.message

namespace Param

/-- A parameter whose components nest less than `fuel` deep. -/
def ofJsonWithin : Nat → Json → Option Param
  | 0, _ => none
  | fuel + 1, j => do
    let fields ← j.fields? ["name", "type", "components"] 2
    let name ← Json.Fields.withDefault "" Json.asString? fields "name"
    let kind ← Json.Fields.required Json.asString? fields "type"
    let components ←
      Json.Fields.withDefault [] (Json.listOf (ofJsonWithin fuel)) fields "components"
    return ⟨name, kind, components⟩

/-- A parameter given in JSON; a name and components may be left out. -/
def ofJson (j : Json) : Option Param := ofJsonWithin (j.depth + 1) j

/-- A list of parameters. -/
def listOfJson (j : Json) : Option (List Param) := Json.listOf ofJson j

end Param

end DeployCheck.Abi
