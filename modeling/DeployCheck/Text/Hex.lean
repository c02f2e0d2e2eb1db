import DeployCheck.Text.Blank
import DeployCheck.Text.Digits
import DeployCheck.Text.Quoted

/-!
Bytes written as hexadecimal digits. `normalize` is the reader for pasted code: blanks are dropped
wherever they stand and one marker may lead. `decode` is the strict reader, which looks at the
UTF-8 bytes of its text.
-/
namespace DeployCheck.Text.Hex

inductive Error where
  /-- A character that is no digit, with its byte offset. -/
  | invalidCharacter (c : Char) (position : Nat)
  | oddLength
deriving DecidableEq, Repr

def Error.message : Error → String
  | .invalidCharacter c position =>
    s!"Invalid character {Quoted.char c} at position {position}"
  | .oddLength => "Odd number of digits"

def digit (n : Nat) : Char := if n < 10 then Char.ofNat (48 + n) else Char.ofNat (87 + n)

/-- The two digits of a byte, high half first. -/
def pair (b : UInt8) : List Char := [digit (b.toNat / 16), digit (b.toNat % 16)]

def encode (bytes : List UInt8) : String := String.ofList (bytes.flatMap pair)

def isDigit (c : Char) : Bool := (digitValue 16 c).isSome

/-- The bytes of a list of digits, taken in pairs; `none` at a character that is no digit or at a
digit that stands alone. -/
def bytes : List Char → Option (List UInt8)
  | [] => some []
  | [_] => none
  | hi :: lo :: rest =>
    match digitValue 16 hi, digitValue 16 lo, bytes rest with
    | some h, some l, some bs => some (UInt8.ofNat (16 * h + l) :: bs)
    | _, _, _ => none

/-- The first character that is no digit, with the offset of its first byte after `offset`. -/
def firstInvalid (offset : Nat) : List Char → Option (Char × Nat)
  | [] => none
  | c :: cs => if isDigit c then firstInvalid (offset + c.utf8Size) cs else some (c, offset)

/-- Without one leading marker of either case. -/
def dropMarker : List Char → List Char
  | '0' :: 'x' :: rest => rest
  | '0' :: 'X' :: rest => rest
  | cs => cs

/-- The digits of pasted code in lowercase. -/
def normalize (cs : List Char) : Except Error (List Char) :=
  let digits := dropMarker (cs.filter fun c => !isBlank c)
  match firstInvalid 0 digits with
  | some (c, position) => .error (.invalidCharacter c position)
  | none => if digits.length % 2 = 0 then .ok (digits.map Char.toLower) else .error .oddLength

/-- The bytes of pasted code. -/
def read (s : String) : Except Error (List UInt8) := do
  match bytes (← normalize s.toList) with
  | some bs => .ok bs
  | none => .error .oddLength

/-- The strict reader: the count of bytes is checked first, and a byte that is no digit is shown
as the character of that code. -/
def decode (s : String) : Except Error (List UInt8) :=
  let cs := s.toUTF8.toList.map fun b => Char.ofNat b.toNat
  if cs.length % 2 = 1 then .error .oddLength
  else match cs.findIdx? (fun c => !isDigit c) with
    | some i => .error (.invalidCharacter (cs.getD i '0') i)
    | none => .ok ((bytes cs).getD [])

end DeployCheck.Text.Hex
