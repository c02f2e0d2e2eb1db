/-!
The Keccak-256 digest: the sponge of rate 136 over the permutation on 25 lanes of 64 bits, with
padding that starts with the byte 1.
-/
namespace DeployCheck.Hash.Keccak

/-- Lane `(x, y)` stands at index `x + 5 * y`. -/
abbrev State := List UInt64

def lane (s : State) (x y : Nat) : UInt64 := s.getD (x % 5 + 5 * (y % 5)) 0

/-- The state whose lanes are given by coordinates. -/
def build (f : Nat → Nat → UInt64) : State := (List.range 25).map fun i => f (i % 5) (i / 5)

def rotate (w : UInt64) (n : Nat) : UInt64 :=
  if n = 0 then w else (w <<< UInt64.ofNat n) ||| (w >>> UInt64.ofNat (64 - n))

def offsets : List Nat :=
  [0, 1, 62, 28, 27, 36, 44, 6, 55, 20, 3, 10, 43, 25, 39, 41, 45, 15, 21, 8, 18, 2, 61, 56, 14]

def roundConstants : List UInt64 :=
  [0x0000000000000001, 0x0000000000008082, 0x800000000000808a, 0x8000000080008000,
   0x000000000000808b, 0x0000000080000001, 0x8000000080008081, 0x8000000000008009,
   0x000000000000008a, 0x0000000000000088, 0x0000000080008009, 0x000000008000000a,
   0x000000008000808b, 0x800000000000008b, 0x8000000000008089, 0x8000000000008003,
   0x8000000000008002, 0x8000000000000080, 0x000000000000800a, 0x800000008000000a,
   0x8000000080008081, 0x8000000000008080, 0x0000000080000001, 0x8000000080008008]

/-- Every lane takes the parities of two neighbouring columns. -/
def theta (s : State) : State :=
  let parity := (List.range 5).map fun x =>
    lane s x 0 ^^^ lane s x 1 ^^^ lane s x 2 ^^^ lane s x 3 ^^^ lane s x 4
  let column (x : Nat) : UInt64 := parity.getD (x % 5) 0
  let change := (List.range 5).map fun x => column (x + 4) ^^^ rotate (column (x + 1)) 1
  build fun x y => lane s x y ^^^ change.getD x 0

/-- Lanes are rotated by their offsets and moved. -/
def rhoPi (s : State) : State :=
  build fun x y =>
    let x₀ := (x + 3 * y) % 5
    rotate (lane s x₀ x) (offsets.getD (x₀ + 5 * x) 0)

/-- The one step that is not linear, along rows. -/
def chi (s : State) : State :=
  build fun x y => lane s x y ^^^ (~~~(lane s (x + 1) y) &&& lane s (x + 2) y)

def iota (c : UInt64) : State → State
  | [] => []
  | w :: rest => (w ^^^ c) :: rest

def permute (s : State) : State :=
  roundConstants.foldl (fun s c => iota c (chi (rhoPi (theta s)))) s

/-- The number of bytes absorbed at a time. -/
def rate : Nat := 136

/-- The message followed by its padding, a whole number of blocks. -/
def pad (bytes : List UInt8) : List UInt8 :=
  match rate - 1 - bytes.length % rate with
  | 0 => bytes ++ [0x81]
  | n + 1 => bytes ++ [0x01] ++ List.replicate n 0 ++ [0x80]

/-- A word of bytes, least significant first. -/
def littleEndian (bytes : List UInt8) : UInt64 :=
  bytes.foldr (fun b w => (w <<< 8) ||| b.toUInt64) 0

/-- Consecutive groups of `n` items; `fuel` bounds their number. -/
def groups {α : Type} (n : Nat) : Nat → List α → List (List α)
  | 0, _ => []
  | _ + 1, [] => []
  | fuel + 1, items => items.take n :: groups n fuel (items.drop n)

def absorb (s : State) (block : List UInt8) : State :=
  let words := (groups 8 17 block).map littleEndian
  permute (List.zipWith (· ^^^ ·) s (words ++ List.replicate 8 0))

/-- The eight bytes of a word, least significant first. -/
def wordBytes (w : UInt64) : List UInt8 :=
  (List.range 8).map fun i => (w >>> UInt64.ofNat (8 * i)).toUInt8

/-- The digest, 32 bytes. -/
def digest (bytes : List UInt8) : List UInt8 :=
  let padded := pad bytes
  let final := (groups rate padded.length padded).foldl absorb (List.replicate 25 0)
  (final.take 4).flatMap wordBytes

end DeployCheck.Hash.Keccak
