import DeployCheck.Json.Printer
import DeployCheck.Json.Scalar
import DeployCheck.Proofs.Text.Numerals

/-! Strings and integers are read back from compact text, whatever closes them. -/
namespace DeployCheck.Json

/-! ## Strings -/

lemma codeUnit_hexDigits {n : Nat} (h : n < 32) (rest : List Char) :
    codeUnit ((Text.hexDigits 4 n).toList ++ rest) = some (n, rest) := by
  have hall : ∀ n < 32, (Text.hexDigits 4 n).toList.length = 4 ∧
      Text.natOfDigits 16 (Text.hexDigits 4 n).toList = some n := by decide +kernel
  obtain ⟨hlength,hvalue⟩ := hall n h
  generalize (Text.hexDigits 4 n).toList = ds at hlength hvalue ⊢
  match ds with
  | [a, b, c, d] => simp [codeUnit, hvalue]

lemma escapedScalar_hexDigits {c : Char} (h : c.toNat < 32) (rest : List Char) :
    escapedScalar ((Text.hexDigits 4 c.toNat).toList ++ rest) = some (c, rest) := by
  have hlow : ¬0xd800 ≤ c.toNat := by omega
  have hhigh : ¬0xdc00 ≤ c.toNat := by omega
  simp [escapedScalar, codeUnit_hexDigits h, hlow, hhigh]

/-- Every character is read back from the way it is written in a string. -/
lemma stringChar_escape (c : Char) (rest : List Char) :
    stringChar (escape c ++ rest) = some (c, rest) := by
  have hcode : ∀ {n}, c.toNat = n → Char.ofNat n = c := fun h => h ▸ Char.ofNat_toNat c
  unfold escape
  split_ifs with hquote hslash hback hfeed hnewline hreturn htab hcontrol
  · subst hquote; rfl
  · subst hslash; rfl
  · exact congrArg (fun c => some (c, rest)) (hcode hback)
  · exact congrArg (fun c => some (c, rest)) (hcode hfeed)
  · subst hnewline; rfl
  · subst hreturn; rfl
  · subst htab; rfl
  · exact escapedScalar_hexDigits hcontrol rest
  · simp [stringChar, hquote, hslash, hcontrol]

lemma stringChars_succ {c : Char} {cs rest : List Char} (h : stringChar cs = some (c, rest))
    (fuel : Nat) : stringChars (fuel + 1) cs =
      (stringChars fuel rest).map fun p => (c :: p.1, p.2) := by
  -- a quote would end the string, but there no character is read
  rw [stringChars]
  · simp only [h, Option.bind_eq_bind, Option.bind_some]
    cases stringChars fuel rest <;> rfl
  · rintro tail rfl
    simp [stringChar] at h

lemma stringChars_escaped {fuel : Nat} {cs : List Char} (h : cs.length < fuel)
    (rest : List Char) : stringChars fuel (cs.flatMap escape ++ '"' :: rest) = some (cs, rest) := by
  induction cs generalizing fuel with
  | nil =>
    obtain ⟨fuel,rfl⟩ := Nat.exists_eq_add_one.mpr h
    rfl
  | cons c cs ih =>
    obtain ⟨fuel,rfl⟩ := Nat.exists_eq_add_one.mpr (Nat.zero_lt_of_lt h)
    rw [List.flatMap_cons, List.append_assoc, stringChars_succ (stringChar_escape c _),
      ih (Nat.lt_of_succ_lt_succ h)]
    rfl

theorem scalar_quoted {fuel : Nat} {s : String} (h : s.toList.length < fuel) (rest : List Char) :
    scalar fuel (quoted s ++ rest) = some (.str s, rest) := by
  have htext : quoted s ++ rest = '"' :: (s.toList.flatMap escape ++ '"' :: rest) := by
    simp [quoted]
  rw [htext]
  simp [scalar, stringBody, stringChars_escaped h]

/-! ## Integers -/

/-- What follows a value in compact text: nothing, or what separates it from the next one or closes
its container. -/
inductive Closes : List Char → Prop
  | nil : Closes []
  | cons {c : Char} (rest : List Char) (h : c ∈ [',', ']', '\x7d']) : Closes (c :: rest)

lemma head?_toDigits_ne_zero {n : Nat} (h : 0 < n) : (Nat.toDigits 10 n).head? ≠ some '0' := by
  induction n using Nat.strongRecOn with
  | ind n ih =>
    rw [Nat.toDigits_eq_if (by omega)]
    split
    · next hlt =>
      have hall : ∀ d < 10, 0 < d → d.digitChar ≠ '0' := by decide
      simpa using hall n hlt h
    · next hle =>
      have hdiv : n / 10 < n := Nat.div_lt_self h (by omega)
      rw [List.head?_append, Option.or_of_isSome (by simp [Nat.toDigits_ne_nil])]
      exact ih _ hdiv (by omega)

lemma Closes.spanDigits_append {ds rest : List Char} (h : Closes rest)
    (hds : ∀ d ∈ ds, d.isDigit = true) : spanDigits (ds ++ rest) = (ds, rest) := by
  have hrest : rest.takeWhile Char.isDigit = [] ∧ rest.dropWhile Char.isDigit = rest := by
    cases h with
    | nil => exact ⟨rfl,rfl⟩
    | @cons c rest hc =>
      have hdigit : c.isDigit = false := by
        simp only [List.mem_cons, List.not_mem_nil, or_false] at hc
        rcases hc with rfl | rfl | rfl <;> rfl
      simp [hdigit]
  simp [spanDigits, List.takeWhile_append_of_pos hds, List.dropWhile_append_of_pos hds, hrest]

lemma Closes.fractionPart_eq {rest : List Char} (h : Closes rest) :
    fractionPart rest = some (none, rest) := by
  unfold fractionPart
  split
  · cases h; contradiction
  · rfl

lemma Closes.exponentPart_eq {rest : List Char} (h : Closes rest) :
    exponentPart rest = some (none, rest) := by
  unfold exponentPart
  split
  · cases h; contradiction
  · cases h; contradiction
  · rfl

lemma numeral_toDigits (n : Nat) {rest : List Char} (h : Closes rest) :
    numeral (Nat.toDigits 10 n ++ rest) = some (⟨Nat.toDigits 10 n, none, none⟩, rest) := by
  have hlead : 1 < (Nat.toDigits 10 n).length → (Nat.toDigits 10 n).head? ≠ some '0' := by
    intro hlong
    rcases Nat.eq_zero_or_pos n with rfl | hpos
    · exact absurd hlong (by decide)
    · exact head?_toDigits_ne_zero hpos
  unfold numeral
  rw [h.spanDigits_append Text.isDigit_of_mem_toDigits]
  simp only [h.fractionPart_eq, h.exponentPart_eq, Option.bind_eq_bind, Option.bind_some]
  rw [if_neg]
  · rfl
  · simpa [Nat.toDigits_ne_nil] using hlead

/-- An integer that fits a 64-bit word, a signed or an unsigned one. -/
def FitsWord (n : Int) : Prop := -(Text.wordBound : Int) ≤ 2 * n ∧ n < Text.wordBound

lemma number_toDigits {n : Nat} {negative : Bool} {value : Int} {rest : List Char} (h : Closes rest)
    (hvalue : intOrFloat negative (Nat.toDigits 10 n) = some (.int value)) :
    number negative (Nat.toDigits 10 n ++ rest) = some (.int value, rest) := by
  simp [number, numeral_toDigits n h, Numeral.value, hvalue]

/-- Digits stand for a number. -/
lemma scalar_digits {c : Char} (hc : c.isDigit = true) (fuel : Nat) (cs : List Char) :
    scalar fuel (c :: cs) = number false (c :: cs) := by
  unfold scalar
  split <;> simp_all

lemma toList_ofNat (n : Nat) : (toString (Int.ofNat n)).toList = Nat.toDigits 10 n := by
  change (Nat.repr n).toList = _
  simp

lemma toList_negSucc (n : Nat) :
    (toString (Int.negSucc n)).toList = '-' :: Nat.toDigits 10 (n + 1) := by
  change ("-" ++ Nat.repr (n + 1)).toList = _
  simp

theorem scalar_int {n : Int} (hn : FitsWord n) (fuel : Nat) {rest : List Char} (h : Closes rest) :
    scalar fuel ((toString n).toList ++ rest) = some (.int n, rest) := by
  obtain ⟨hlow,hhigh⟩ := hn
  have hbound : Text.wordBound = 2 ^ 64 := rfl
  cases n with
  | ofNat n =>
    have hvalue : intOrFloat false (Nat.toDigits 10 n) = some (.int (Int.ofNat n)) := by
      have hword : n < Text.wordBound := by
        change (n : Int) < Text.wordBound at hhigh
        omega
      simp [intOrFloat, Text.natOfDigits_toDigits, hword]
    obtain ⟨d,ds,hds⟩ := List.exists_cons_of_ne_nil (Nat.toDigits_ne_nil (b := 10) (n := n))
    have hdigit := Text.isDigit_of_mem_toDigits (n := n) d (by simp [hds])
    rw [toList_ofNat, ← number_toDigits h hvalue, hds]
    exact scalar_digits hdigit fuel _
  | negSucc n =>
    have hvalue : intOrFloat true (Nat.toDigits 10 (n + 1)) = some (.int (Int.negSucc n)) := by
      have hword : 2 * (n + 1) ≤ Text.wordBound := by omega
      simp [intOrFloat, Text.natOfDigits_toDigits, hword, Int.negSucc_eq]
    rw [toList_negSucc]
    exact number_toDigits h hvalue

end DeployCheck.Json
