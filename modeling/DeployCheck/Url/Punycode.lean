/-!
Punycode: a label with characters outside ASCII as its ASCII characters followed by the others in
ascending order, coded as gaps in digits of base 36 under a bias that adapts.
-/
namespace DeployCheck.Url.Punycode

def digit (n : Nat) : Char := if n < 26 then Char.ofNat (97 + n) else Char.ofNat (22 + n)

def digitValue? (c : Char) : Option Nat :=
  if 'a' ≤ c ∧ c ≤ 'z' then some (c.toNat - 97)
  else if 'A' ≤ c ∧ c ≤ 'Z' then some (c.toNat - 65)
  else if '0' ≤ c ∧ c ≤ '9' then some (c.toNat - 22)
  else none

def threshold (k bias : Nat) : Nat :=
  if k ≤ bias then 1 else if bias + 26 ≤ k then 26 else k - bias

/-- Divides the gap until it is small; `k` counts the divisions in steps of the base. -/
def settle : Nat → Nat → Nat → Nat
  | 0, _, k => k
  | fuel + 1, delta, k =>
    if 455 < delta then settle fuel (delta / 35) (k + 36) else k + 36 * delta / (delta + 38)

def adapt (delta count : Nat) (first : Bool) : Nat :=
  let delta := if first then delta / 700 else delta / 2
  settle 64 (delta + delta / count) 0

/-- The digits of a gap. -/
def gapDigits (bias : Nat) : Nat → Nat → Nat → List Char
  | 0, _, _ => []
  | fuel + 1, q, k =>
    let t := threshold k bias
    if q < t then [digit q]
    else digit (t + (q - t) % (36 - t)) :: gapDigits bias fuel ((q - t) / (36 - t)) (k + 36)

structure EncodeState where
  delta : Nat
  bias : Nat
  done : Nat
  out : List Char

/-- Codes the occurrences of the character `n` among `cs`. -/
def encodeChar (n basic : Nat) (s : EncodeState) (c : Char) : EncodeState :=
  if c.toNat < n then { s with delta := s.delta + 1 }
  else if c.toNat = n then
    { delta := 0
      bias := adapt s.delta (s.done + 1) (s.done == basic)
      done := s.done + 1
      out := s.out ++ gapDigits s.bias 32 s.delta 36 }
  else s

/-- Codes the characters from `n` on; `fuel` bounds the number of distinct ones. -/
def encodeFrom (cs : List Char) (basic : Nat) : Nat → Nat → EncodeState → List Char
  | 0, _, s => s.out
  | fuel + 1, n, s =>
    match (cs.filter fun c => n ≤ c.toNat).map Char.toNat with
    | [] => s.out
    | m :: ms =>
      let next := ms.foldl min m
      let s := { s with delta := s.delta + (next - n) * (s.done + 1) }
      let s := cs.foldl (encodeChar next basic) s
      encodeFrom cs basic fuel (next + 1) { s with delta := s.delta + 1 }

def encode (cs : List Char) : List Char :=
  let ascii := cs.filter fun c => c.toNat < 128
  let lead := if ascii.isEmpty then [] else ascii ++ ['-']
  lead ++ encodeFrom cs ascii.length (cs.length + 1) 128 ⟨0, 72, ascii.length, []⟩

/-- Reads one gap: its value and the rest. -/
def readGap (bias : Nat) : List Char → Nat → Nat → Nat → Option (Nat × List Char)
  | [], _, _, _ => none
  | c :: rest, k, weight, value => do
    let d ← digitValue? c
    let value := value + d * weight
    let t := threshold k bias
    if d < t then return (value, rest)
    else readGap bias rest (k + 36) (weight * (36 - t)) value

def insertAt (cs : List Char) (i : Nat) (c : Char) : List Char := cs.take i ++ c :: cs.drop i

/-- Reads all gaps; `fuel` bounds their number. -/
def decodeFrom : Nat → List Char → Nat → Nat → Nat → List Char → Option (List Char)
  | _, [], _, _, _, out => some out
  | 0, _, _, _, _, _ => none
  | fuel + 1, cs, n, i, bias, out => do
    let (gap, rest) ← readGap bias cs 36 1 0
    let size := out.length + 1
    let place := i + gap
    let n := n + place / size
    let at_ := place % size
    if h : n.isValidChar then
      decodeFrom fuel rest n (at_ + 1) (adapt gap size (i == 0))
        (insertAt out at_ (Char.ofNatAux n h))
    else none

/-- The label of a coded text, without its marker. -/
def decode (cs : List Char) : Option (List Char) :=
  let tail := (cs.reverse.takeWhile (· != '-')).reverse
  let lead := cs.take (cs.length - tail.length - 1)
  decodeFrom (tail.length + 1) tail 128 0 72 (if tail.length = cs.length then [] else lead)

example : encode "bücher".toList = "bcher-kva".toList := by decide

end DeployCheck.Url.Punycode
