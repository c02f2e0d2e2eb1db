/-!
Bytes, and the texts that they are in UTF-8. A reader of text either insists on UTF-8 or reads a
replacement for every part that is ill-formed.
-/
namespace DeployCheck

/-- What a file, an answer or a program holds. -/
structure Blob where
  bytes : List UInt8
deriving DecidableEq, Repr

namespace Blob

/-- The bytes of a text in UTF-8. -/
def ofText (text : String) : Blob := ⟨text.toUTF8.data.toList⟩

instance : Coe String Blob := ⟨ofText⟩

/-- The ranges of the bytes that follow the first byte of a character. None follow an ASCII
character, or a byte that begins no character. -/
def following (first : UInt8) : List (Nat × Nat) :=
  let first := first.toNat
  if first < 0xC2 then []
  else if first < 0xE0 then [(0x80, 0xBF)]
  else if first = 0xE0 then [(0xA0, 0xBF), (0x80, 0xBF)]
  else if first = 0xED then [(0x80, 0x9F), (0x80, 0xBF)]
  else if first < 0xF0 then [(0x80, 0xBF), (0x80, 0xBF)]
  else if first = 0xF0 then [(0x90, 0xBF), (0x80, 0xBF), (0x80, 0xBF)]
  else if first < 0xF4 then [(0x80, 0xBF), (0x80, 0xBF), (0x80, 0xBF)]
  else if first = 0xF4 then [(0x80, 0x8F), (0x80, 0xBF), (0x80, 0xBF)]
  else []

def isWithin (range : Nat × Nat) (b : UInt8) : Bool := range.1 ≤ b.toNat && b.toNat ≤ range.2

/-- Cuts bytes into parts behind one that is under way, which goes on as long as bytes lie in the
ranges that it is followed by. -/
def partsFrom (part : List UInt8) : List (Nat × Nat) → List UInt8 → List (List UInt8)
  | _, [] => [part]
  | [], b :: bytes => part :: partsFrom [b] (following b) bytes
  | range :: ranges, b :: bytes =>
    if isWithin range b then partsFrom (part ++ [b]) ranges bytes
    else part :: partsFrom [b] (following b) bytes

/-- The parts of bytes. Each is a character, or begins one that does not go on, or begins none. -/
def parts : List UInt8 → List (List UInt8)
  | [] => []
  | b :: bytes => partsFrom [b] (following b) bytes

/-- The character that a part is, if it is well-formed. -/
def charOf? (part : List UInt8) : Option Char := part.toByteArray.utf8DecodeChar? 0

/-- The text that the bytes are in UTF-8. -/
def text? (b : Blob) : Option String := ((parts b.bytes).mapM charOf?).map String.ofList

def replacement : Char := '\uFFFD'

/-- The text that the bytes are in UTF-8, with a replacement for each ill-formed part. -/
def text (b : Blob) : String :=
  String.ofList ((parts b.bytes).map fun part => (charOf? part).getD replacement)

end Blob

end DeployCheck
