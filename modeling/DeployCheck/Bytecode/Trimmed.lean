import DeployCheck.Text.Hex

/-!
Deployed code without its trailers. A metadata trailer states its own size in its last two bytes,
and a string literal may follow the last guard sequence before it.
-/
namespace DeployCheck.Bytecode

/-- `JUMPDEST POP JUMP INVALID`, which stands in front of an appended literal. -/
def guard : List UInt8 := [0x5b, 0x50, 0x56, 0xfe]

structure Trimmed where
  /-- The executable part, up to and with the guard if a literal was split off. -/
  code : List UInt8
  literal : List UInt8
  /-- The metadata with its two size bytes. -/
  metadata : List UInt8
deriving DecidableEq, Repr

namespace Trimmed

def reassemble (t : Trimmed) : List UInt8 := t.code ++ t.literal ++ t.metadata

/-- The literal as text; it is ASCII. -/
def literalText (t : Trimmed) : String :=
  String.ofList (t.literal.map fun b => Char.ofNat b.toNat)

def hasMetadata (t : Trimmed) : Bool := !t.metadata.isEmpty

def hasLiteral (t : Trimmed) : Bool := !t.literal.isEmpty

end Trimmed

/-- The size of the metadata trailer, if the size it states fits. -/
def metadataLength? (bytes : List UInt8) : Option Nat :=
  match bytes.reverse with
  | lo :: hi :: _ =>
    let size := 256 * hi.toNat + lo.toNat + 2
    if size ≤ bytes.length then some size else none
  | _ => none

/-- Parts before and after the end of the last guard. -/
def splitAtGuard : List UInt8 → Option (List UInt8 × List UInt8)
  | [] => none
  | b :: rest =>
    match splitAtGuard rest with
    | some (code, literal) => some (b :: code, literal)
    | none => if guard.isPrefixOf (b :: rest) then some (guard, (b :: rest).drop 4) else none

def isAscii (bytes : List UInt8) : Bool := bytes.all (· < 128)

/-- Code and literal; what follows the last guard is a literal if it is ASCII and not empty. -/
def splitLiteral (bytes : List UInt8) : List UInt8 × List UInt8 :=
  match splitAtGuard bytes with
  | some (code, literal) =>
    if !literal.isEmpty && isAscii literal then (code, literal) else (bytes, [])
  | none => (bytes, [])

/-- Without metadata that fits, the bytes are kept as code. -/
def trim (bytes : List UInt8) : Trimmed :=
  match metadataLength? bytes with
  | none => ⟨bytes, [], []⟩
  | some size =>
    let kept := bytes.length - size
    let (code, literal) := splitLiteral (bytes.take kept)
    ⟨code, literal, bytes.drop kept⟩

end DeployCheck.Bytecode
