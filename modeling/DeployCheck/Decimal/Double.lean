/-!
Finite numbers of the binary64 format in exact arithmetic: rounding a ratio to the nearest double,
ties to the even significand, and the product and quotient of doubles by that rule.
-/
namespace DeployCheck.Decimal

/-- The number `±significand * 2 ^ exponent`. A normal number has a significand of 53 bits, a
smaller one has the exponent -1074. -/
structure Double where
  negative : Bool
  significand : Nat
  exponent : Int
deriving DecidableEq, Repr

namespace Double

def minExponent : Int := -1074

def maxExponent : Int := 971

/-- The least significand of a normal number. -/
def leastNormal : Nat := Nat.pow 2 52

def zero : Double := ⟨false, 0, minExponent⟩

def neg (x : Double) : Double := { x with negative := !x.negative }

/-- `num * 2 ^ shift` and `den`, with a negative shift moved to the denominator. -/
def scaled (num den : Nat) (shift : Int) : Nat × Nat :=
  (num * Nat.pow 2 shift.toNat, den * Nat.pow 2 (-shift).toNat)

/-- The nearest whole number of a ratio; a tie goes to the even one. -/
def roundHalfEven (num den : Nat) : Nat :=
  let q := num / den
  let twice := 2 * (num % den)
  if twice < den then q
  else if den < twice then q + 1
  else if q % 2 = 0 then q else q + 1

/-- The greatest `k` with `2 ^ k ≤ num / den`, for positive `num` and `den`. -/
def floorLog2 (num den : Nat) : Int :=
  let k : Int := Nat.log2 num - Nat.log2 den
  let (n, d) := scaled num den (-k)
  if d ≤ n then k else k - 1

/-- The nearest double of a ratio, or `none` when it is too large for one. -/
def ofRatio (num den : Nat) : Option Double :=
  if num = 0 then some zero
  else
    let e := max minExponent (floorLog2 num den - 52)
    let (n, d) := scaled num den (-e)
    let m := roundHalfEven n d
    let (m, e) := if m = 2 * leastNormal then (leastNormal, e + 1) else (m, e)
    if maxExponent < e then none else some ⟨false, m, e⟩

/-- The magnitude as a ratio. -/
def ratio (x : Double) : Nat × Nat := scaled x.significand 1 x.exponent

def mul (x y : Double) : Option Double :=
  let (a, b) := x.ratio
  let (c, d) := y.ratio
  (ofRatio (a * c) (b * d)).map fun z => { z with negative := x.negative != y.negative }

def div (x y : Double) : Option Double :=
  let (a, b) := x.ratio
  let (c, d) := y.ratio
  if c = 0 then none
  else (ofRatio (a * d) (b * c)).map fun z => { z with negative := x.negative != y.negative }

/-- The double nearest to `10 ^ n`. -/
def pow10 (n : Nat) : Option Double := ofRatio (Nat.pow 10 n) 1

/-- `x * 10 ^ exponent` in at most `fuel` steps of 308 powers of ten, each rounded; `none` when the
result is too large. -/
def scale10 : Nat → Double → Int → Option Double
  | 0, x, _ => some x
  | fuel + 1, x, exponent =>
    if exponent.natAbs ≤ 308 then do
      let p ← pow10 exponent.natAbs
      if 0 ≤ exponent then x.mul p else x.div p
    else if x.significand = 0 then some x
    else if 0 ≤ exponent then none
    else do
      let y ← x.div (← pow10 308)
      scale10 fuel y (exponent + 308)

/-- A decimal read as its significand rounded to a double and then scaled by the double nearest to
the power of ten. Three steps suffice, since a significand of 64 bits vanishes in two. -/
def ofDecimal (negative : Bool) (significand : Nat) (exponent : Int) : Option Double := do
  let x ← scale10 3 (← ofRatio significand 1) exponent
  return if negative then x.neg else x

end Double

end DeployCheck.Decimal
