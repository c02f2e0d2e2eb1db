import DeployCheck.Abi.Encoding
import Mathlib.Tactic.Common
import Mathlib.Tactic.Ring

/-! Words as a reader of encoded data sees them: numbers, numbers in two's complement, and bytes
that zeros extend to whole words. -/
namespace DeployCheck.Abi

/-- The number that bytes denote, most significant first. -/
def number (bytes : List UInt8) : Nat := bytes.foldl (fun n b => 256 * n + b.toNat) 0

/-- The number in the first word of a block. -/
def number? (block : List UInt8) : Option Nat :=
  if 32 ≤ block.length then some (number (block.take 32)) else none

/-- The integer that a word denotes in two's complement. -/
def signed (n : Nat) : Int := if n < 2 ^ 255 then n else n - 2 ^ 256

/-- The size of bytes that are extended to a whole number of words. -/
def paddedSize (size : Nat) : Nat := (size + 31) / 32 * 32

/-- Bytes with the zeros that extend them to a whole number of words. -/
def filled (bytes : List UInt8) : List UInt8 :=
  bytes ++ List.replicate (paddedSize bytes.length - bytes.length) 0

/-- The last `size` bytes of the first word of a block, if zeros stand before them. -/
def paddedLeft? (size : Nat) (block : List UInt8) : Option (List UInt8) :=
  if 32 ≤ block.length ∧ block.take (32 - size) = List.replicate (32 - size) 0 then
    some ((block.take 32).drop (32 - size))
  else none

/-- The first `size` bytes of a block, if zeros extend them to a whole number of words. -/
def paddedRight? (size : Nat) (block : List UInt8) : Option (List UInt8) :=
  if paddedSize size ≤ block.length ∧
      (block.take (paddedSize size)).drop size = List.replicate (paddedSize size - size) 0 then
    some (block.take size)
  else none

@[simp] theorem length_word (n : Nat) : (word n).length = 32 := by simp [word]

@[simp] theorem length_intWord (n : Int) : (intWord n).length = 32 := length_word _

theorem padRight_eq_filled (bytes : List UInt8) : padRight bytes = filled bytes := by
  have hzeros : (32 - bytes.length % 32) % 32 = paddedSize bytes.length - bytes.length := by
    unfold paddedSize
    omega
  rw [padRight, hzeros, filled]

theorem length_padRight (bytes : List UInt8) : (padRight bytes).length = paddedSize bytes.length := by
  simp only [padRight, paddedSize, List.length_append, List.length_replicate]
  omega

@[simp] theorem length_withLength (bytes : List UInt8) :
    (withLength bytes).length = 32 + paddedSize bytes.length := by
  simp [withLength, length_padRight]

lemma number_concat (bytes : List UInt8) (b : UInt8) :
    number (bytes ++ [b]) = 256 * number bytes + b.toNat := by
  simp [number]

/-- The digits of a number in base 256 denote it, up to the digits that are cut off. -/
theorem number_digits (k n : Nat) :
    number ((List.range k).map fun i => UInt8.ofNat (n / 256 ^ (k - 1 - i))) = n % 256 ^ k := by
  induction k generalizing n with
  | zero => simp [number, Nat.mod_one]
  | succ k ih =>
    have hprefix : (List.range k).map (fun i => UInt8.ofNat (n / 256 ^ (k + 1 - 1 - i))) =
        (List.range k).map fun i => UInt8.ofNat (n / 256 / 256 ^ (k - 1 - i)) := by
      apply List.map_congr_left
      intro i hi
      have hlt := List.mem_range.mp hi
      rw [Nat.div_div_eq_div_mul, ← Nat.pow_succ', show k + 1 - 1 - i = (k - 1 - i).succ by omega]
    rw [List.range_succ, List.map_append, hprefix, List.map_singleton, number_concat, ih]
    simp only [Nat.add_sub_cancel, Nat.sub_self, Nat.pow_zero, Nat.div_one, UInt8.toNat_ofNat']
    have hsplit : n % 256 ^ (k + 1) = n % 256 + 256 * (n / 256 % 256 ^ k) := by
      rw [Nat.pow_succ', Nat.mod_mul]
    rw [hsplit]
    omega

/-- A number that fits a word is read back. -/
theorem number?_append {n : Nat} (h : n < 2 ^ 256) (rest : List UInt8) :
    number? (word n ++ rest) = some n := by
  have hnumber : number (word n) = n % 256 ^ 32 := number_digits 32 n
  have htake : (word n ++ rest).take 32 = word n := List.take_left' (length_word n)
  rw [number?, if_pos (by simp), htake, hnumber, Nat.mod_eq_of_lt (by simpa using h)]

theorem number?_intWord_append {n : Int} (hlo : 0 ≤ n) (hhi : n < 2 ^ 256) (rest : List UInt8) :
    number? (intWord n ++ rest) = some n.toNat := by
  have hmod : ((Nat.pow 2 256 : Nat) : Int) = 2 ^ 256 := by norm_num
  rw [intWord, hmod, Int.emod_eq_of_lt hlo hhi, number?_append (by omega)]

/-- An integer in the range of two's complement is read back. -/
theorem signed_append {n : Int} (hlo : -2 ^ 255 ≤ n) (hhi : n < 2 ^ 255)
    (rest : List UInt8) : (number? (intWord n ++ rest)).map signed = some n := by
  have hmod : ((Nat.pow 2 256 : Nat) : Int) = 2 ^ 256 := by norm_num
  rw [intWord, hmod, number?_append (by omega), Option.map_some, signed]
  congr 1
  split_ifs <;> omega

theorem length_padLeft {bytes : List UInt8} (h : bytes.length ≤ 32) :
    (padLeft bytes).length = 32 := by
  simp only [padLeft, List.length_append, List.length_replicate]
  omega

/-- Bytes behind zeros are read back. -/
theorem paddedLeft?_append {bytes : List UInt8} (h : bytes.length ≤ 32) (rest : List UInt8) :
    paddedLeft? bytes.length (padLeft bytes ++ rest) = some bytes := by
  have hzeros : (List.replicate (32 - bytes.length) (0 : UInt8)).length = 32 - bytes.length :=
    List.length_replicate
  rw [paddedLeft?, if_pos, List.take_left' (length_padLeft h), padLeft, List.drop_left' hzeros]
  refine ⟨by simp [length_padLeft h],?_⟩
  rw [padLeft, List.append_assoc, List.take_left' hzeros]

/-- Bytes before zeros are read back. -/
theorem paddedRight?_append (bytes rest : List UInt8) :
    paddedRight? bytes.length (padRight bytes ++ rest) = some bytes := by
  rw [paddedRight?, ← length_padRight, List.take_left' rfl, if_pos, padRight, List.append_assoc,
    List.take_left' rfl]
  refine ⟨by simp,?_⟩
  rw [length_padRight, padRight_eq_filled, filled, List.drop_left' rfl]

end DeployCheck.Abi
