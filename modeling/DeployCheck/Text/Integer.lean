import DeployCheck.Text.Blank
import DeployCheck.Text.Digits

/-!
Whole numbers as people write them: a sign, a marker for base 16, and digits that underscores may
group after the first.
-/
namespace DeployCheck.Text.Integer

/-- Digits, of which the first is no underscore. -/
def grouped (radix : Nat) (cs : List Char) : Option Nat :=
  match cs with
  | [] | '_' :: _ => none
  | _ => digitsFrom radix 0 (cs.filter (· != '_'))

/-- Digits after at most one plus sign. -/
def magnitude (radix : Nat) : List Char → Option Nat
  | '+' :: rest => grouped radix rest
  | cs => grouped radix cs

/-- Digits after at most one sign. -/
def signed (radix : Nat) : List Char → Option Int
  | '-' :: rest => (grouped radix rest).map fun n => -(n : Int)
  | cs => (magnitude radix cs).map Int.ofNat

/-- Digits of base 16 after a marker, of `radix` elsewhere. -/
def marked (radix : Nat) : List Char → Option Int
  | '0' :: 'x' :: rest => signed 16 rest
  | '0' :: 'X' :: rest => signed 16 rest
  | cs => signed radix cs

/-- Reads a number between blanks; the sign may stand in front of the marker, and another one
behind it. -/
def read (radix : Nat) (s : String) : Option Int :=
  match trim s.toList with
  | '-' :: rest => (marked radix rest).map (- ·)
  | cs => marked radix cs

end DeployCheck.Text.Integer
