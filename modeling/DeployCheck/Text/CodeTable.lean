import DeployCheck.Text.Blank
import DeployCheck.Text.Digits
import DeployCheck.Text.Split

/-!
Tables over code points, written as words between blanks. `61-7a` is a range, `61+7d` takes every
second code point of one. What follows an equals sign is the image of the range, code points joined
by dots. All numbers are hexadecimal and the ranges ascend.
-/
namespace DeployCheck.Text

/-- Code points `first`, `first + step` and so on up to `last`, and what a table says of them. -/
structure CodeRange where
  first : Nat
  last : Nat
  step : Nat
  image : List Nat
deriving DecidableEq, Repr

namespace CodeRange

def contains (r : CodeRange) (n : Nat) : Bool :=
  decide (r.first ≤ n) && decide (n ≤ r.last) && (n - r.first) % r.step == 0

/-- The image of one code point of the range: a single code point moves along with it. -/
def imageAt (r : CodeRange) (n : Nat) : List Nat :=
  match r.image with
  | [m] => [m + (n - r.first)]
  | ms => ms

def readBounds (step : Nat) (a b : List Char) (image : List Nat) : Option CodeRange := do
  return ⟨← natOfDigits 16 a, ← natOfDigits 16 b, step, image⟩

def readImage (cs : List Char) : Option (List Nat) :=
  if cs.isEmpty then some [] else (split '.' cs).mapM (natOfDigits 16)

def read? (word : List Char) : Option CodeRange := do
  let image ← readImage ((word.dropWhile (· != '=')).drop 1)
  let key := word.takeWhile (· != '=')
  match split '-' key, split '+' key with
  | [a, b], _ => readBounds 1 a b image
  | _, [a, b] => readBounds 2 a b image
  | _, _ => readBounds 1 key key image

end CodeRange

/-- Ranges that ascend and do not overlap. -/
structure CodeTable where
  ranges : Array CodeRange

namespace CodeTable

/-- The words of a text, that is, its parts without blanks. -/
def words (text : List Char) : List (List Char) :=
  let (done, word) := text.foldl
    (fun (done, word) c =>
      if !isBlank c then (done, c :: word)
      else if word.isEmpty then (done, [])
      else (word.reverse :: done, []))
    (([], []) : List (List Char) × List Char)
  (if word.isEmpty then done else word.reverse :: done).reverse

def read (text : String) : CodeTable :=
  ⟨((words text.toList).filterMap CodeRange.read?).toArray⟩

/-- The place in `[lo, hi]` of the first range that begins beyond `n`. -/
def placeAfter (ranges : Array CodeRange) (n lo hi : Nat) : Nat :=
  if lo < hi then
    let mid := (lo + hi) / 2
    if ranges[mid]?.any fun r => r.first ≤ n then placeAfter ranges n (mid + 1) hi
    else placeAfter ranges n lo mid
  else lo
termination_by hi - lo

/-- The range that holds a code point. -/
def find? (table : CodeTable) (n : Nat) : Option CodeRange :=
  match placeAfter table.ranges n 0 table.ranges.size with
  | 0 => none
  | i + 1 => table.ranges[i]?.filter fun r => r.contains n

def contains (table : CodeTable) (n : Nat) : Bool := (table.find? n).isSome

end CodeTable

end DeployCheck.Text
