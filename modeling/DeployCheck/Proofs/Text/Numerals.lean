import DeployCheck.Proofs.Text.HexReading

/-! Numbers are read back from their digits: hexadecimal ones, however wide they are padded, and
decimal ones. A decimal text reads as a number exactly if it is the number's digits with a plus
sign, if any, and zeros in front. -/
namespace DeployCheck.Text

/-- Uppercase hexadecimal digits of a number, at least `width` of them. -/
structure Numeral (width n : Nat) (ds : List Char) : Prop where
  wide : width ≤ ds.length
  uppercase : ∀ d ∈ ds, d ∈ "0123456789ABCDEF".toList
  value : natOfDigits 16 ds = some n

lemma digitsFrom_append (radix acc : Nat) (cs ds : List Char) :
    digitsFrom radix acc (cs ++ ds) =
      (digitsFrom radix acc cs).bind fun n => digitsFrom radix n ds := by
  induction cs generalizing acc with
  | nil => rfl
  | cons c cs ih =>
    cases h : digitValue radix c <;> simp [digitsFrom, h, ih]

lemma digitsFrom_replicate_zero {radix : Nat} (hradix : 0 < radix) (k : Nat) (ds : List Char) :
    digitsFrom radix 0 (List.replicate k '0' ++ ds) = digitsFrom radix 0 ds := by
  have hzero : digitValue radix '0' = some 0 := by simp [digitValue, hradix]
  induction k with
  | zero => rfl
  | succ k ih =>
    rw [List.replicate_succ, List.cons_append, digitsFrom, hzero, Option.bind_some]
    exact ih

lemma natOfDigits_eq_of_ne_nil {radix : Nat} {ds : List Char} (h : ds ≠ []) :
    natOfDigits radix ds = digitsFrom radix 0 ds := by
  cases ds with
  | nil => exact absurd rfl h
  | cons d ds => rfl

lemma upper_digitChar {d : Nat} (h : d < 16) :
    d.digitChar.toUpper ∈ "0123456789ABCDEF".toList ∧
      digitValue 16 d.digitChar.toUpper = some d := by
  have hall : ∀ d ∈ List.range 16, d.digitChar.toUpper ∈ "0123456789ABCDEF".toList ∧
      digitValue 16 d.digitChar.toUpper = some d := by decide
  exact hall d (List.mem_range.mpr h)

lemma newline_not_mem_toDigits (n : Nat) : '\n' ∉ Nat.toDigits 10 n := by
  intro h
  have := Nat.isDigit_of_mem_toDigits (by omega) (by omega) h
  simp at this

lemma forall_mem_toDigits {p : Char → Prop} {b : Nat} (hb : 1 < b) (h : ∀ d < b, p d.digitChar)
    (n : Nat) : ∀ c ∈ Nat.toDigits b n, p c := by
  induction n using Nat.strongRecOn with
  | ind n ih =>
    rw [Nat.toDigits_eq_if hb]
    split
    · next hlt => simpa using h n hlt
    · next hle =>
      have hdiv : n / b < n := Nat.div_lt_self (by omega) hb
      simp only [List.forall_mem_append, List.forall_mem_singleton]
      exact ⟨ih _ hdiv,h _ (Nat.mod_lt _ (by omega))⟩

/-- Digits of a number denote it, in whatever form they are written. -/
lemma digitsFrom_toDigits {b : Nat} (write : Char → Char) (hb : 1 < b)
    (hwrite : ∀ d < b, digitValue b (write d.digitChar) = some d) (n : Nat) :
    digitsFrom b 0 ((Nat.toDigits b n).map write) = some n := by
  induction n using Nat.strongRecOn with
  | ind n ih =>
    rw [Nat.toDigits_eq_if hb]
    split
    · next hlt => simp [digitsFrom, hwrite n hlt]
    · next hle =>
      have hdiv : n / b < n := Nat.div_lt_self (by omega) hb
      have hlast := hwrite (n % b) (Nat.mod_lt n (by omega))
      rw [List.map_append, digitsFrom_append, ih _ hdiv, Option.bind_some]
      simp [digitsFrom, hlast, Nat.div_add_mod]

/-- Uppercase digits denote their number. -/
theorem numeral_hexDigitsUpper (width n : Nat) :
    Numeral width n (hexDigitsUpper width n).toList := by
  have hpad : '0'.toUpper = '0' := by decide
  have htext : (hexDigitsUpper width n).toList =
      List.replicate (width - (Nat.toDigits 16 n).length) '0' ++
        (Nat.toDigits 16 n).map Char.toUpper := by
    simp [hexDigitsUpper, hexDigits, hpad]
  have hdigits : ∀ c ∈ Nat.toDigits 16 n, c.toUpper ∈ "0123456789ABCDEF".toList :=
    forall_mem_toDigits (by omega) (fun d hd => (upper_digitChar hd).1) n
  refine ⟨?_,?_,?_⟩
  · rw [htext, List.length_append, List.length_replicate, List.length_map]
    omega
  · rw [htext, List.forall_mem_append]
    refine ⟨?_,List.forall_mem_map.mpr hdigits⟩
    intro d hd
    rw [List.eq_of_mem_replicate hd]
    decide
  · rw [htext, natOfDigits_eq_of_ne_nil (by simp), digitsFrom_replicate_zero (by decide)]
    exact digitsFrom_toDigits _ (by omega) (fun d hd => (upper_digitChar hd).2) n

/-- Numbers with the same digits are the same, however wide they are padded. -/
lemma hexDigitsUpper_inj {width n m : Nat} (h : hexDigitsUpper width n = hexDigitsUpper width m) :
    n = m := by
  have hn := (numeral_hexDigitsUpper width n).value
  rw [h, (numeral_hexDigitsUpper width m).value] at hn
  exact (Option.some.inj hn).symm

/-! ## Decimal digits -/

lemma isDigit_of_mem_toDigits {n : Nat} : ∀ c ∈ Nat.toDigits 10 n, c.isDigit = true :=
  fun _ => Nat.isDigit_of_mem_toDigits (by omega) (by omega)

/-- A number is read back from its decimal digits. -/
theorem natOfDigits_toDigits (n : Nat) : natOfDigits 10 (Nat.toDigits 10 n) = some n := by
  have hall : ∀ d < 10, digitValue 10 d.digitChar = some d := by decide
  have hdigits := digitsFrom_toDigits id (by omega) hall n
  rwa [List.map_id, ← natOfDigits_eq_of_ne_nil Nat.toDigits_ne_nil] at hdigits

lemma eq_digitChar_of_digitValue {c : Char} {d : Nat} (h : digitValue 10 c = some d) :
    d < 10 ∧ c = d.digitChar := by
  have hall : ∀ d < 10, d.digitChar.toNat = 48 + d := by decide
  rw [digitValue_eq] at h
  simp only at h
  split_ifs at h <;> simp only [Option.some.injEq] at h <;> try omega
  refine ⟨by omega,Char.toNat_inj.mp ?_⟩
  rw [hall d (by omega)]
  omega

/-- Digits behind a number that is not zero are its next digits. -/
lemma toDigits_append_of_digitsFrom {acc n : Nat} {cs : List Char} (hacc : 0 < acc)
    (h : digitsFrom 10 acc cs = some n) : Nat.toDigits 10 acc ++ cs = Nat.toDigits 10 n := by
  induction cs generalizing acc with
  | nil =>
    cases h
    exact List.append_nil _
  | cons c cs ih =>
    obtain ⟨d,hd,hrest⟩ := Option.bind_eq_some_iff.mp h
    obtain ⟨hlt,rfl⟩ := eq_digitChar_of_digitValue hd
    have hnext : Nat.toDigits 10 acc ++ [d.digitChar] = Nat.toDigits 10 (10 * acc + d) := by
      rw [← Nat.toDigits_of_lt_base hlt]
      exact Nat.toDigits_append_toDigits (by decide) hacc hlt
    rw [List.append_cons, hnext]
    exact ih (by omega) hrest

/-- A number is written as its digits behind any zeros. -/
theorem natOfDigits_eq_some_iff {ds : List Char} {n : Nat} :
    natOfDigits 10 ds = some n ↔ ∃ k, ds = List.replicate k '0' ++ Nat.toDigits 10 n := by
  constructor
  · intro h
    induction ds with
    | nil => cases h
    | cons c cs ih =>
      obtain ⟨d,hd,hrest⟩ := Option.bind_eq_some_iff.mp h
      obtain ⟨hlt,rfl⟩ := eq_digitChar_of_digitValue hd
      rw [Nat.mul_zero, Nat.zero_add] at hrest
      by_cases hzero : d = 0
      · subst hzero
        by_cases hcs : cs = []
        · subst hcs
          cases hrest
          exact ⟨0,rfl⟩
        · rw [← natOfDigits_eq_of_ne_nil hcs] at hrest
          obtain ⟨k,rfl⟩ := ih hrest
          exact ⟨k + 1,rfl⟩
      · refine ⟨0,?_⟩
        have hdigits := toDigits_append_of_digitsFrom (Nat.pos_of_ne_zero hzero) hrest
        rwa [Nat.toDigits_of_lt_base hlt] at hdigits
  · rintro ⟨k,rfl⟩
    have hne : List.replicate k '0' ++ Nat.toDigits 10 n ≠ [] := by simp [Nat.toDigits_ne_nil]
    rw [natOfDigits_eq_of_ne_nil hne, digitsFrom_replicate_zero (by decide),
      ← natOfDigits_eq_of_ne_nil Nat.toDigits_ne_nil, natOfDigits_toDigits]

/-- What leaves a number as it is in front of its digits: a plus sign, if any, and zeros. -/
inductive Surplus : List Char → Prop
  | zeros (k : Nat) : Surplus (List.replicate k '0')
  | plus (k : Nat) : Surplus ('+' :: List.replicate k '0')

lemma Surplus.mem {front : List Char} (h : Surplus front) : ∀ c ∈ front, c = '+' ∨ c = '0' := by
  cases h with
  | zeros k => exact fun c hc => .inr (List.eq_of_mem_replicate hc)
  | plus k =>
    intro c hc
    exact (List.mem_cons.mp hc).imp_right List.eq_of_mem_replicate

/-- A number below a bound is written as its digits with surplus in front. -/
theorem natBelow_eq_some_iff {bound n : Nat} {cs : List Char} :
    natBelow 10 bound cs = some n ↔
      n < bound ∧ ∃ front, Surplus front ∧ cs = front ++ Nat.toDigits 10 n := by
  have hplus : ∀ k rest, List.replicate k '0' ++ Nat.toDigits 10 n ≠ '+' :: rest := by
    intro k rest heq
    have hmem : '+' ∈ List.replicate k '0' ++ Nat.toDigits 10 n := by simp [heq]
    rcases List.mem_append.mp hmem with hzero | hdigit
    · exact absurd (List.eq_of_mem_replicate hzero) (by decide)
    · exact absurd (isDigit_of_mem_toDigits _ hdigit) (by decide)
  constructor
  · intro h
    obtain ⟨hdigits,hbound⟩ := Option.filter_eq_some_iff.mp h
    refine ⟨by simpa using hbound,?_⟩
    split at hdigits
    · obtain ⟨k,rfl⟩ := natOfDigits_eq_some_iff.mp hdigits
      exact ⟨_,.plus k,rfl⟩
    · obtain ⟨k,hcs⟩ := natOfDigits_eq_some_iff.mp hdigits
      exact ⟨_,.zeros k,hcs⟩
  · rintro ⟨hbound,front,hfront,rfl⟩
    refine Option.filter_eq_some_iff.mpr ⟨?_,by simpa using hbound⟩
    cases hfront with
    | zeros k =>
      split
      · next rest heq => exact absurd heq (hplus k rest)
      · exact natOfDigits_eq_some_iff.mpr ⟨k,rfl⟩
    | plus k => exact natOfDigits_eq_some_iff.mpr ⟨k,rfl⟩

/-- A word is read back from its decimal digits. -/
theorem natBelow_toDigits {n bound : Nat} (h : n < bound) :
    natBelow 10 bound (Nat.toDigits 10 n) = some n :=
  natBelow_eq_some_iff.mpr ⟨h,_,.zeros 0,rfl⟩

end DeployCheck.Text
