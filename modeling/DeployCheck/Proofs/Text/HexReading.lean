import DeployCheck.Text.Hex
import Mathlib.Data.UInt
import Mathlib.Tactic.Common

/-! Reading pasted code. The normal form is an even number of hexadecimal digits, so the bytes of a
text that has one are always there, and bytes that were written are read back. -/
namespace DeployCheck.Text

lemma toNat_toLower (c : Char) :
    c.toLower.toNat = if 65 ≤ c.toNat ∧ c.toNat ≤ 90 then c.toNat + 32 else c.toNat := by
  unfold Char.toLower
  split
  · next h =>
    have hlo : 65 ≤ c.toNat := h.1
    have hhi : c.toNat ≤ 90 := h.2
    rw [if_pos ⟨hlo,hhi⟩]
    change (c.toNat + 32) % 2 ^ 32 = _
    omega
  · next h => exact (if_neg h).symm

/-- Letters and digits in terms of their code points. -/
lemma isAlphanum_iff {c : Char} : c.isAlphanum = true ↔
    48 ≤ c.toNat ∧ c.toNat ≤ 57 ∨ 65 ≤ c.toNat ∧ c.toNat ≤ 90 ∨ 97 ≤ c.toNat ∧ c.toNat ≤ 122 := by
  change ((decide (c.val ≥ 65 ∧ c.val ≤ 90) || (c.val ≥ 97 && c.val ≤ 122)) ||
    (c.val ≥ 48 && c.val ≤ 57)) = true ↔ _
  simp only [Bool.or_eq_true, Bool.and_eq_true, decide_eq_true_eq, ge_iff_le,
    UInt32.le_iff_toNat_le]
  change ((65 ≤ c.toNat ∧ c.toNat ≤ 90) ∨ 97 ≤ c.toNat ∧ c.toNat ≤ 122) ∨
    48 ≤ c.toNat ∧ c.toNat ≤ 57 ↔ _
  omega

/-- The value of a digit in terms of its code point. -/
lemma digitValue_eq (radix : Nat) (c : Char) :
    digitValue radix c =
      let v :=
        if 48 ≤ c.toNat ∧ c.toNat ≤ 57 then c.toNat - 48
        else if 97 ≤ c.toNat ∧ c.toNat ≤ 122 then c.toNat - 97 + 10
        else if 65 ≤ c.toNat ∧ c.toNat ≤ 90 then c.toNat - 65 + 10
        else radix
      if v < radix then some v else none := by
  simp only [digitValue, Char.le_def, UInt32.le_iff_toNat_le]
  rfl

/-- A digit has its value in either letter case. -/
theorem digitValue_toLower (radix : Nat) (c : Char) :
    digitValue radix c.toLower = digitValue radix c := by
  rw [digitValue_eq, digitValue_eq, toNat_toLower]
  by_cases h : 65 ≤ c.toNat ∧ c.toNat ≤ 90
  · have hdigit : ¬(48 ≤ c.toNat ∧ c.toNat ≤ 57) := by omega
    have hlower : ¬(97 ≤ c.toNat ∧ c.toNat ≤ 122) := by omega
    have hdigit' : ¬(48 ≤ c.toNat + 32 ∧ c.toNat + 32 ≤ 57) := by omega
    have hlower' : 97 ≤ c.toNat + 32 ∧ c.toNat + 32 ≤ 122 := by omega
    have hvalue : c.toNat + 32 - 97 = c.toNat - 65 := by omega
    simp only [if_pos h, if_neg hdigit, if_neg hlower, if_neg hdigit', if_pos hlower', hvalue]
  · simp only [if_neg h]

namespace Hex

theorem firstInvalid_eq_none_iff (offset : Nat) (cs : List Char) :
    firstInvalid offset cs = none ↔ ∀ c ∈ cs, isDigit c = true := by
  induction cs generalizing offset with
  | nil => simp [firstInvalid]
  | cons c cs ih =>
    by_cases h : isDigit c = true
    · simp [firstInvalid, h, ih]
    · simp [firstInvalid, h]

lemma isDigit_toLower (c : Char) : isDigit c.toLower = isDigit c := by
  simp [isDigit, digitValue_toLower]

/-- Digits in pairs have bytes. -/
theorem exists_bytes {cs : List Char} (hdigits : ∀ c ∈ cs, isDigit c = true)
    (heven : cs.length % 2 = 0) : ∃ bs, bytes cs = some bs := by
  match cs with
  | [] => exact ⟨[],rfl⟩
  | [_] => simp at heven
  | hi :: lo :: rest =>
    have hrest : ∀ c ∈ rest, isDigit c = true := fun c hc => hdigits c (by simp [hc])
    obtain ⟨bs,hbs⟩ := exists_bytes hrest (by simp only [List.length_cons] at heven; omega)
    obtain ⟨h,hh⟩ := Option.isSome_iff_exists.mp (hdigits hi (by simp))
    obtain ⟨l,hl⟩ := Option.isSome_iff_exists.mp (hdigits lo (by simp))
    exact ⟨UInt8.ofNat (16 * h + l) :: bs,by simp [bytes, hh, hl, hbs]⟩

/-- What pasted code is without its blanks and the marker in front. -/
def payload (cs : List Char) : List Char := dropMarker (cs.filter fun c => !isBlank c)

lemma normalize_eq (cs : List Char) : normalize cs =
    match firstInvalid 0 (payload cs) with
    | some (c, position) => .error (.invalidCharacter c position)
    | none => if (payload cs).length % 2 = 0 then .ok ((payload cs).map Char.toLower)
      else .error .oddLength := rfl

/-- What has a normal form is an even number of digits, and their lowercase is the normal form. -/
theorem normalize_eq_ok_iff {cs ds : List Char} :
    normalize cs = .ok ds ↔ (∀ c ∈ payload cs, isDigit c = true) ∧ (payload cs).length % 2 = 0 ∧
      (payload cs).map Char.toLower = ds := by
  rw [← firstInvalid_eq_none_iff 0, normalize_eq]
  cases firstInvalid 0 (payload cs) with
  | some p => simp
  | none => by_cases heven : (payload cs).length % 2 = 0 <;> simp [heven]

/-- The normal form of pasted code is made of digits, an even number of them. -/
theorem digits_of_normalize {cs ds : List Char} (h : normalize cs = .ok ds) :
    (∀ c ∈ ds, isDigit c = true) ∧ ds.length % 2 = 0 := by
  obtain ⟨hdigits,heven,rfl⟩ := normalize_eq_ok_iff.mp h
  refine ⟨List.forall_mem_map.mpr fun c hc => ?_,by rwa [List.length_map]⟩
  rw [isDigit_toLower]
  exact hdigits c hc

/-- Pasted code that has a normal form is read. -/
theorem exists_read_of_normalize {s : String} {ds : List Char} (h : normalize s.toList = .ok ds) :
    ∃ bs, read s = .ok bs ∧ bytes ds = some bs := by
  obtain ⟨hdigits,heven⟩ := digits_of_normalize h
  obtain ⟨bs,hbs⟩ := exists_bytes hdigits heven
  refine ⟨bs,?_,hbs⟩
  simp [read, h, hbs, bind, Except.bind]

lemma isDigit_iff (c : Char) : isDigit c = true ↔
    48 ≤ c.toNat ∧ c.toNat ≤ 57 ∨ 97 ≤ c.toNat ∧ c.toNat ≤ 102 ∨ 65 ≤ c.toNat ∧ c.toNat ≤ 70 := by
  rw [isDigit, digitValue_eq]
  simp only
  split_ifs <;> simp <;> omega

lemma bytes_cons_cons {hi lo : Char} {rest : List Char} {bs : List UInt8} :
    bytes (hi :: lo :: rest) = some bs ↔
      ∃ h l tail, digitValue 16 hi = some h ∧ digitValue 16 lo = some l ∧
        bytes rest = some tail ∧ bs = UInt8.ofNat (16 * h + l) :: tail := by
  rw [bytes]
  cases digitValue 16 hi <;> cases digitValue 16 lo <;> cases bytes rest <;> simp [eq_comm]

/-- What has bytes is made of digits, two for each byte. -/
theorem digits_of_bytes {cs : List Char} {bs : List UInt8} (h : bytes cs = some bs) :
    (∀ c ∈ cs, isDigit c = true) ∧ cs.length = 2 * bs.length := by
  match cs with
  | [] =>
    cases h
    simp
  | [_] => cases h
  | hi :: lo :: rest =>
    obtain ⟨hv,lv,tail,hh,hl,hrest,rfl⟩ := bytes_cons_cons.mp h
    obtain ⟨hdigits,hlen⟩ := digits_of_bytes hrest
    simp only [List.forall_mem_cons, isDigit, hh, hl, Option.isSome_some, true_and,
      List.length_cons, hlen]
    exact ⟨hdigits,by omega⟩

lemma isBlank_of_isDigit {c : Char} (h : isDigit c = true) : isBlank c = false := by
  rw [isDigit_iff] at h
  simp only [isBlank, Bool.or_eq_false_iff, Bool.and_eq_false_iff, decide_eq_false_iff_not,
    beq_eq_false_iff_ne]
  omega

/-- Blanks at the ends of a text are among those that are dropped. -/
lemma filter_trim (cs : List Char) :
    (trim cs).filter (fun c => !isBlank c) = cs.filter fun c => !isBlank c := by
  have hstart : ∀ cs : List Char, (cs.dropWhile isBlank).filter (fun c => !isBlank c) =
      cs.filter fun c => !isBlank c := by
    intro cs
    induction cs with
    | nil => rfl
    | cons c cs ih => cases h : isBlank c <;> simp [h, ih]
  rw [trim, trimEnd, List.filter_reverse, hstart, List.filter_reverse, List.reverse_reverse,
    trimStart, hstart]

/-- Blanks around pasted code do not matter. -/
theorem read_stripped (s : String) : read (stripped s) = read s := by
  simp only [read, normalize, stripped, String.toList_ofList, filter_trim]

/-- Digits do not start with a marker. -/
lemma dropMarker_of_digits {cs : List Char} (h : ∀ c ∈ cs, isDigit c = true) :
    dropMarker cs = cs := by
  unfold dropMarker
  split
  · exact absurd (h 'x' (by simp)) (by decide)
  · exact absurd (h 'X' (by simp)) (by decide)
  · rfl

lemma bytes_map_toLower (cs : List Char) : bytes (cs.map Char.toLower) = bytes cs := by
  match cs with
  | [] => rfl
  | [_] => rfl
  | hi :: lo :: rest =>
    rw [List.map_cons, List.map_cons, bytes, bytes, bytes_map_toLower rest]
    simp only [digitValue_toLower]

lemma payload_of_digits {cs : List Char} (h : ∀ c ∈ cs, isDigit c = true) : payload cs = cs := by
  have hkept : cs.filter (fun c => !isBlank c) = cs :=
    List.filter_eq_self.mpr fun c hc => by rw [isBlank_of_isDigit (h c hc)]; rfl
  rw [payload, hkept, dropMarker_of_digits h]

/-- What is read of pasted code are the bytes of its digits. -/
theorem read_eq_ok_iff {s : String} {bs : List UInt8} :
    read s = .ok bs ↔ bytes (payload s.toList) = some bs := by
  constructor
  · intro h
    cases hnormal : normalize s.toList with
    | error e =>
      rw [read, hnormal] at h
      cases h
    | ok ds =>
      obtain ⟨found,hread,hfound⟩ := exists_read_of_normalize hnormal
      obtain ⟨-,-,rfl⟩ := normalize_eq_ok_iff.mp hnormal
      rwa [bytes_map_toLower, Except.ok.inj (hread.symm.trans h)] at hfound
  · intro h
    obtain ⟨hdigits,hlen⟩ := digits_of_bytes h
    obtain ⟨found,hread,hfound⟩ := exists_read_of_normalize
      (normalize_eq_ok_iff.mpr ⟨hdigits,by omega,rfl⟩)
    rw [bytes_map_toLower, h] at hfound
    rw [hread, Option.some.inj hfound]

/-- Digits alone are read as their bytes. -/
theorem read_of_bytes {s : String} {bs : List UInt8} (h : bytes s.toList = some bs) :
    read s = .ok bs :=
  read_eq_ok_iff.mpr (by rwa [payload_of_digits (digits_of_bytes h).1])

lemma digitValue_digit {n : Nat} (h : n < 16) : digitValue 16 (digit n) = some n := by
  have hall : ∀ n ∈ List.range 16, digitValue 16 (digit n) = some n := by decide
  exact hall n (List.mem_range.mpr h)

lemma bytes_flatMap_pair (bs : List UInt8) : bytes (bs.flatMap pair) = some bs := by
  induction bs with
  | nil => rfl
  | cons b bs ih =>
    have hbyte : b.toNat < 256 := b.toNat_lt
    refine bytes_cons_cons.mpr ⟨_,_,_,digitValue_digit (by omega),digitValue_digit (by omega),ih,?_⟩
    rw [Nat.div_add_mod, UInt8.ofNat_toNat]

/-- Written bytes are read back. -/
theorem read_encode (bs : List UInt8) : read (encode bs) = .ok bs :=
  read_of_bytes (by rw [encode, String.toList_ofList, bytes_flatMap_pair])

theorem encode_injective : Function.Injective encode := by
  intro bs cs h
  have hread := read_encode bs
  rw [h, read_encode cs] at hread
  exact (Except.ok.inj hread).symm

end Hex

end DeployCheck.Text
