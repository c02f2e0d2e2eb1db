import DeployCheck.Json.Basic
import DeployCheck.Text.Digits
import DeployCheck.Text.Split

/-!
Reading the strings, numbers and words of JSON text. An integer that fits neither a signed nor an
unsigned 64-bit word, a negative zero and every number with a fraction or an exponent is a double.
-/
namespace DeployCheck.Json

/-- A reader of a value returns it with the text that follows. -/
abbrev Reader (α : Type) := List Char → Option (α × List Char)

def isSpace (c : Char) : Bool := c == ' ' || c == '\n' || c == '\t' || c == '\r'

def skipSpace (cs : List Char) : List Char := cs.dropWhile isSpace

/-- Four hexadecimal digits. -/
def codeUnit : Reader Nat
  | a :: b :: c :: d :: rest => (Text.natOfDigits 16 [a, b, c, d]).map fun n => (n, rest)
  | _ => none

/-- What follows the backslash and the letter `u`: a scalar value, or two units of a pair. -/
def escapedScalar (cs : List Char) : Option (Char × List Char) := do
  let (unit, rest) ← codeUnit cs
  if 0xd800 ≤ unit ∧ unit < 0xdc00 then
    let (low, rest) ← codeUnit (← Text.after? ['\\', 'u'] rest)
    if 0xdc00 ≤ low ∧ low < 0xe000 then
      some (Char.ofNat (0x10000 + (unit - 0xd800) * 0x400 + (low - 0xdc00)), rest)
    else none
  else if 0xdc00 ≤ unit ∧ unit < 0xe000 then none
  else some (Char.ofNat unit, rest)

/-- The character that a letter after a backslash stands for. -/
def shortEscape (c : Char) : Option Char :=
  if c = '"' ∨ c = '\\' ∨ c = '/' then some c
  else if c = 'b' then some '\x08'
  else if c = 'f' then some '\x0c'
  else if c = 'n' then some '\n'
  else if c = 'r' then some '\r'
  else if c = 't' then some '\t'
  else none

/-- One character of a string, escaped or not; `none` where the string has to end. -/
def stringChar : Reader Char
  | [] => none
  | '\\' :: 'u' :: rest => escapedScalar rest
  | '\\' :: c :: rest => (shortEscape c).map fun c => (c, rest)
  | c :: rest => if c = '"' ∨ c = '\\' ∨ c.toNat < 32 then none else some (c, rest)

/-- The characters up to the closing quote; `fuel` bounds their number. -/
def stringChars : Nat → Reader (List Char)
  | 0, _ => none
  | _ + 1, '"' :: rest => some ([], rest)
  | fuel + 1, cs => do
    let (c, rest) ← stringChar cs
    let (tail, rest) ← stringChars fuel rest
    return (c :: tail, rest)

/-- A string, after its opening quote. -/
def stringBody (fuel : Nat) (cs : List Char) : Option (String × List Char) :=
  (stringChars fuel cs).map fun (s, rest) => (String.ofList s, rest)

/-- The digits in front and the text after them. -/
def spanDigits (cs : List Char) : List Char × List Char :=
  (cs.takeWhile Char.isDigit, cs.dropWhile Char.isDigit)

/-- The significand of a number: digits are taken while it stays a 64-bit word. The second part
counts the digits taken. -/
def significand : Nat → List Char → Nat × Nat
  | acc, [] => (acc, 0)
  | acc, d :: ds =>
    let next := acc * 10 + (d.toNat - 48)
    if next < Text.wordBound then
      let (value, n) := significand next ds
      (value, n + 1)
    else (acc, 0)

/-- An integer with an optional sign. -/
def exponentDigits (cs : List Char) : Option (Int × List Char) := do
  let (negative, cs) := match cs with
    | '+' :: rest => (false, rest)
    | '-' :: rest => (true, rest)
    | _ => (false, cs)
  let (ds, rest) := spanDigits cs
  let n ← Text.natOfDigits 10 ds
  return (if negative then -(n : Int) else n, rest)

/-- A number as it is written, without its sign. -/
structure Numeral where
  whole : List Char
  fraction : Option (List Char)
  exponent : Option Int
deriving DecidableEq, Repr

/-- The digits after a point, if there is a point. -/
def fractionPart (cs : List Char) : Option (Option (List Char) × List Char) :=
  match cs with
  | '.' :: rest =>
    let (digits, rest) := spanDigits rest
    if digits.isEmpty then none else some (some digits, rest)
  | _ => some (none, cs)

/-- The exponent after `e` or `E`, if there is one. -/
def exponentPart (cs : List Char) : Option (Option Int × List Char) :=
  match cs with
  | 'e' :: rest | 'E' :: rest => (exponentDigits rest).map fun (n, rest) => (some n, rest)
  | _ => some (none, cs)

/-- The digits of a number; a zero in front stands alone. -/
def numeral : Reader Numeral := fun cs => do
  let (whole, rest) := spanDigits cs
  if whole.isEmpty || (whole.length > 1 && whole.head? == some '0') then none
  let (fraction, rest) ← fractionPart rest
  let (exponent, rest) ← exponentPart rest
  return (⟨whole, fraction, exponent⟩, rest)

/-- The double of the digits before and after the point and the exponent. Digits past a 64-bit
significand only count before the point. -/
def floatOf (negative : Bool) (whole fraction : List Char) (exponent : Int) :
    Option Decimal.Double :=
  let (value, taken) := significand 0 whole
  let dropped := whole.length - taken
  let (value, places) := significand value fraction
  Decimal.Double.ofDecimal negative value (exponent + dropped - places)

/-- An integer where it fits a 64-bit word of its sign, and a double elsewhere. -/
def intOrFloat (negative : Bool) (whole : List Char) : Option Json :=
  (Text.natOfDigits 10 whole).bind fun n =>
    if negative && 0 < n && 2 * n ≤ Text.wordBound then some (.int (-(n : Int)))
    else if !negative && n < Text.wordBound then some (.int n)
    else (floatOf negative whole [] 0).map .float

/-- The value of a number; `none` beyond all doubles. -/
def Numeral.value (negative : Bool) (n : Numeral) : Option Json :=
  match n.fraction, n.exponent with
  | none, none => intOrFloat negative n.whole
  | _, _ => (floatOf negative n.whole (n.fraction.getD []) (n.exponent.getD 0)).map .float

/-- A number, after its sign. -/
def number (negative : Bool) : Reader Json := fun cs => do
  let (n, rest) ← numeral cs
  return (← n.value negative, rest)

/-- A value that opens no container; `fuel` bounds the characters of a string. -/
def scalar (fuel : Nat) : Reader Json
  | '"' :: rest => (stringBody fuel rest).map fun (s, rest) => (.str s, rest)
  | '-' :: rest => number true rest
  | 'n' :: rest => (Text.after? "ull".toList rest).map fun rest => (.null, rest)
  | 't' :: rest => (Text.after? "rue".toList rest).map fun rest => (.bool true, rest)
  | 'f' :: rest => (Text.after? "alse".toList rest).map fun rest => (.bool false, rest)
  | cs => number false cs

end DeployCheck.Json
