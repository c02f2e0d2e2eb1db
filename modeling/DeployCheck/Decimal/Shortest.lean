import DeployCheck.Decimal.Double

/-!
The shortest decimal of a double: the fewest digits that lie in the interval of numbers rounding to
it, and of those the nearest. `text` writes them positionally from `0.00001` up to sixteen digits
before the point, and with a signed exponent elsewhere.
-/
namespace DeployCheck.Decimal

/-- The number `0.d₁d₂… * 10 ^ point`. -/
structure Digits where
  digits : List Nat
  point : Int
deriving DecidableEq, Repr

namespace Double

/-- The number of decimal digits of a natural number. -/
def digitCount (n : Nat) : Nat := (Nat.toDigits 10 n).length

/-- The greatest `k` with `10 ^ k ≤ num / den`, for positive `num` and `den`. -/
def floorLog10 (num den : Nat) : Int :=
  if den ≤ num then (digitCount (num / den) : Int) - 1
  else -(digitCount ((den + num - 1) / num - 1) : Int)

/-- Ends of the interval of numbers that round to a positive double, over the denominator of
`4 * significand` quarters: lower end, value, upper end, denominator. -/
def interval (x : Double) : Nat × Nat × Nat × Nat :=
  let m := x.significand
  let below := if m = leastNormal ∧ minExponent < x.exponent then 1 else 2
  let up := Nat.pow 2 x.exponent.toNat
  ((4 * m - below) * up, 4 * m * up, (4 * m + 2) * up, 4 * Nat.pow 2 (-x.exponent).toNat)

/-- The grid point `c * 10 ^ k` that reads back as `x` and is nearest to it among its two
neighbours on that grid. -/
def onGrid (x : Double) (k : Int) : Option Nat :=
  let (lo, v, hi, den) := x.interval
  let up := Nat.pow 10 k.toNat
  let down := Nat.pow 10 (-k).toNat
  let inside (c : Nat) : Bool :=
    let p := c * up * den
    if x.significand % 2 = 0 then lo * down ≤ p && p ≤ hi * down
    else lo * down < p && p < hi * down
  let c := v * down / (up * den)
  let rest := v * down % (up * den)
  match inside c, inside (c + 1) with
  | true, true =>
    some (if 2 * rest < up * den ∨ (2 * rest = up * den ∧ c % 2 = 0) then c else c + 1)
  | true, false => some c
  | false, true => some (c + 1)
  | false, false => none

/-- Digits of `c * 10 ^ k` without zeros at the end. -/
def digitsOf (c : Nat) (k : Int) : Digits :=
  let ds := (Nat.toDigits 10 c).map fun d => d.toNat - 48
  ⟨(ds.reverse.dropWhile (· == 0)).reverse, k + ds.length⟩

def shortest (x : Double) : Digits :=
  let (_, v, _, den) := x.interval
  let top := floorLog10 v den
  let found := (List.range 17).findSome? fun (n : Nat) =>
    let k : Int := top - n
    (x.onGrid k).map fun c => digitsOf c k
  found.getD ⟨[0], 1⟩

def digitText (ds : List Nat) : String := String.ofList (ds.map fun d => Char.ofNat (48 + d))

def zeros (n : Nat) : String := String.ofList (List.replicate n '0')

/-- The text of a double; a whole number keeps one digit after the point. -/
def text (x : Double) : String :=
  let body :=
    if x.significand = 0 then "0.0"
    else
      let ds := x.shortest.digits
      let point := x.shortest.point
      let n : Int := ds.length
      if n ≤ point ∧ point ≤ 16 then digitText ds ++ zeros (point - n).toNat ++ ".0"
      else if 0 < point ∧ point ≤ 16 then
        digitText (ds.take point.toNat) ++ "." ++ digitText (ds.drop point.toNat)
      else if -5 < point ∧ point ≤ 0 then "0." ++ zeros (-point).toNat ++ digitText ds
      else
        let e := point - 1
        let mark := if e < 0 then "e-" else "e+"
        let fraction := if ds.length = 1 then "" else "." ++ digitText (ds.drop 1)
        digitText (ds.take 1) ++ fraction ++ mark ++ toString e.natAbs
  if x.negative then "-" ++ body else body

end Double

end DeployCheck.Decimal
