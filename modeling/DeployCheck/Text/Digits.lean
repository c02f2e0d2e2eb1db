/-!
Numbers written in digits: reading in a radix up to 36, and the unsigned 64-bit words that a
leading plus sign may precede.
-/
namespace DeployCheck.Text

/-- The value of a digit below `radix`; letters of either case count from ten. -/
def digitValue (radix : Nat) (c : Char) : Option Nat :=
  let v :=
    if '0' ≤ c ∧ c ≤ '9' then c.toNat - '0'.toNat
    else if 'a' ≤ c ∧ c ≤ 'z' then c.toNat - 'a'.toNat + 10
    else if 'A' ≤ c ∧ c ≤ 'Z' then c.toNat - 'A'.toNat + 10
    else radix
  if v < radix then some v else none

/-- The number that a list of digits denotes after `acc`. -/
def digitsFrom (radix : Nat) : Nat → List Char → Option Nat
  | acc, [] => some acc
  | acc, c :: cs => (digitValue radix c).bind fun d => digitsFrom radix (radix * acc + d) cs

/-- Reads one or more digits. -/
def natOfDigits (radix : Nat) : List Char → Option Nat
  | [] => none
  | cs => digitsFrom radix 0 cs

/-- Reads digits after at most one plus sign; a value of `bound` or more is refused. -/
def natBelow (radix bound : Nat) (cs : List Char) : Option Nat :=
  let digits := match cs with
    | '+' :: rest => rest
    | _ => cs
  (natOfDigits radix digits).filter (· < bound)

/-- Words of 64 bits stay below it. -/
def wordBound : Nat := Nat.pow 2 64

/-- An unsigned 64-bit number in decimal. -/
def wordOfDecimal (s : String) : Option Nat := natBelow 10 wordBound s.toList

/-- Lowercase digits, padded on the left with zeros to `width`. -/
def hexDigits (width n : Nat) : String :=
  let ds := Nat.toDigits 16 n
  String.ofList (List.replicate (width - ds.length) '0' ++ ds)

/-- Uppercase digits, padded on the left with zeros to `width`. -/
def hexDigitsUpper (width n : Nat) : String :=
  String.ofList ((hexDigits width n).toList.map Char.toUpper)

/-- `cs` followed by blanks up to `width` characters. -/
def padRight (width : Nat) (s : String) : String :=
  s ++ String.ofList (List.replicate (width - s.length) ' ')

end DeployCheck.Text
