import DeployCheck.Proofs.Text.Blanks
import DeployCheck.Text.Integer

/-! The texts that whole numbers are read from: blanks around a minus sign, the marker of base 16,
another sign and digits. Every text that reads as a number is of this form, and reads as the number
that its digits give. -/
namespace DeployCheck.Text.Integer

/-! ## Forms -/

/-- A digit of a base up to 16, in either letter case. -/
structure IsDigit (base : Nat) (c : Char) (d : Nat) : Prop where
  below : d < base
  char : c.toLower = d.digitChar

/-- Digits of a base, with underscores behind any of them. -/
inductive Digits (base : Nat) : List Char → Nat → Prop
  | single {c : Char} {d : Nat} (digit : IsDigit base c d) : Digits base [c] d
  | next {cs : List Char} {c : Char} {n d : Nat} (lead : Digits base cs n)
    (digit : IsDigit base c d) : Digits base (cs ++ [c]) (base * n + d)
  | underscore {cs : List Char} {n : Nat} (lead : Digits base cs n) : Digits base (cs ++ ['_']) n

/-- A sign in front of digits, with the factor that it stands for. -/
inductive Sign : List Char → Int → Prop
  | none : Sign [] 1
  | plus : Sign ['+'] 1
  | minus : Sign ['-'] (-1)

/-- The marker of base 16; without it digits are of the base that is usual. -/
inductive Marker (base : Nat) : List Char → Nat → Prop
  | none : Marker base [] base
  | lower : Marker base ['0', 'x'] 16
  | upper : Marker base ['0', 'X'] 16

/-- A minus sign in front of everything else. -/
inductive Lead : List Char → Int → Prop
  | none : Lead [] 1
  | minus : Lead ['-'] (-1)

/-- Digits behind a sign, if any. -/
inductive Signed (base : Nat) : List Char → Int → Prop
  | mk {sign digits : List Char} {s : Int} {n : Nat} (sign_in_front : Sign sign s)
    (value : Digits base digits n) : Signed base (sign ++ digits) (s * n)

/-- Signed digits behind the marker of base 16, if any. -/
inductive Marked (base : Nat) : List Char → Int → Prop
  | mk {marker rest : List Char} {b : Nat} {m : Int} (marker_in_front : Marker base marker b)
    (value : Signed b rest m) : Marked base (marker ++ rest) m

/-- A text stands for a number: blanks around it, a minus sign, if any, and what the marker allows
behind that. -/
inductive Writes (base : Nat) : List Char → Int → Prop
  | mk {front lead rest back : List Char} {l m : Int}
    (blank_front : ∀ c ∈ front, isBlank c = true) (lead_in_front : Lead lead l)
    (value : Marked base rest m) (blank_back : ∀ c ∈ back, isBlank c = true) :
    Writes base (front ++ (lead ++ rest) ++ back) (l * m)

/-! ## Digits -/

variable {base : Nat}

lemma digitValue_eq_some_iff_of_le (hbase : base ≤ 16) {c : Char} {d : Nat} :
    digitValue base c = some d ↔ digitValue 16 c = some d ∧ d < base := by
  simp only [digitValue_eq]
  split_ifs <;> simp <;> omega

lemma toNat_digitChar {d : Nat} (h : d < 16) :
    d.digitChar.toNat = if d < 10 then 48 + d else 87 + d := by
  have hall : ∀ d < 16, d.digitChar.toNat = if d < 10 then 48 + d else 87 + d := by decide
  exact hall d h

lemma digitValue_eq_some_iff (hbase : base ≤ 16) {c : Char} {d : Nat} :
    digitValue base c = some d ↔ IsDigit base c d := by
  rw [digitValue_eq_some_iff_of_le hbase]
  constructor
  · rintro ⟨hvalue,hbelow⟩
    refine ⟨hbelow,?_⟩
    rw [← Char.toNat_inj, toNat_toLower, toNat_digitChar (by omega)]
    simp only [digitValue_eq] at hvalue
    split_ifs at hvalue ⊢ <;> simp at hvalue <;> omega
  · rintro ⟨hbelow,hchar⟩
    have hall : ∀ d < 16, digitValue 16 d.digitChar = some d := by decide
    rw [← digitValue_toLower, hchar]
    exact ⟨hall d (by omega),hbelow⟩

lemma grouped_cons {c : Char} (h : c ≠ '_') (cs : List Char) :
    grouped base (c :: cs) = digitsFrom base 0 ((c :: cs).filter (· != '_')) := by
  unfold grouped
  split
  · next heq => exact absurd heq (List.cons_ne_nil _ _)
  · next heq => exact absurd (List.cons.inj heq).1 h
  · rfl

lemma grouped_singleton {c : Char} (h : c ≠ '_') : grouped base [c] = digitValue base c := by
  rw [grouped_cons h]
  cases hc : digitValue base c <;> simp [h, digitsFrom, hc]

lemma grouped_concat {cs : List Char} (hne : cs ≠ []) (c : Char) :
    grouped base (cs ++ [c]) =
      (grouped base cs).bind fun n =>
        if c = '_' then some n else (digitValue base c).map fun d => base * n + d := by
  obtain ⟨first,cs,rfl⟩ := List.exists_cons_of_ne_nil hne
  by_cases hfirst : first = '_'
  · rw [hfirst]
    rfl
  · rw [List.cons_append, grouped_cons hfirst, grouped_cons hfirst, ← List.cons_append,
      List.filter_append, digitsFrom_append]
    congr 1
    funext n
    by_cases hc : c = '_'
    · simp [hc, digitsFrom]
    · cases hvalue : digitValue base c <;> simp [hc, digitsFrom, hvalue]

section Reading

variable (hbase : base ≤ 16)

include hbase

lemma IsDigit.range {c : Char} {d : Nat} (h : IsDigit base c d) :
    48 ≤ c.toNat ∧ c.toNat ≤ 57 ∨ 65 ≤ c.toNat ∧ c.toNat ≤ 70 ∨ 97 ≤ c.toNat ∧ c.toNat ≤ 102 := by
  have hvalue := ((digitValue_eq_some_iff_of_le hbase).mp ((digitValue_eq_some_iff hbase).mpr h)).1
  simp only [digitValue_eq] at hvalue
  split_ifs at hvalue <;> simp at hvalue <;> omega

lemma IsDigit.ne {c e : Char} {d : Nat} (h : IsDigit base c d)
    (he : ∀ d < 16, e.toLower ≠ d.digitChar) : c ≠ e := by
  rintro rfl
  exact he d (h.below.trans_le hbase) h.char

/-- Digits are read as the number that they stand for. -/
theorem grouped_eq_some_iff {cs : List Char} {n : Nat} :
    grouped base cs = some n ↔ Digits base cs n := by
  constructor
  · intro h
    induction cs using List.reverseRecOn generalizing n with
    | nil => cases h
    | append_singleton cs c ih =>
      by_cases hne : cs = []
      · subst hne
        rw [List.nil_append] at h ⊢
        have hc : c ≠ '_' := by
          rintro rfl
          cases h
        rw [grouped_singleton hc, digitValue_eq_some_iff hbase] at h
        exact .single h
      · rw [grouped_concat hne, Option.bind_eq_some_iff] at h
        obtain ⟨m,hm,h⟩ := h
        split_ifs at h with hc
        · cases h
          exact hc ▸ .underscore (ih hm)
        · obtain ⟨d,hd,rfl⟩ := Option.map_eq_some_iff.mp h
          exact .next (ih hm) ((digitValue_eq_some_iff hbase).mp hd)
  · have hne : ∀ {cs n}, grouped base cs = some n → cs ≠ [] := by
      rintro _ _ h rfl
      cases h
    intro h
    induction h with
    | single digit =>
      rw [grouped_singleton (digit.ne hbase (by decide)), digitValue_eq_some_iff hbase]
      exact digit
    | next lead digit ih =>
      rw [grouped_concat (hne ih), ih, Option.bind_some, if_neg (digit.ne hbase (by decide)),
        (digitValue_eq_some_iff hbase).mpr digit, Option.map_some]
    | underscore lead ih =>
      rw [grouped_concat (hne ih), ih, Option.bind_some, if_pos rfl]

/-! ## Signs and markers -/

omit hbase in
lemma Digits.head {cs : List Char} {n : Nat} (h : Digits base cs n) :
    ∃ c d rest, cs = c :: rest ∧ IsDigit base c d := by
  induction h with
  | single digit => exact ⟨_,_,_,rfl,digit⟩
  | next _ _ ih =>
    obtain ⟨c,d,rest,rfl,hc⟩ := ih
    exact ⟨c,d,_,rfl,hc⟩
  | underscore _ ih =>
    obtain ⟨c,d,rest,rfl,hc⟩ := ih
    exact ⟨c,d,_,rfl,hc⟩

omit hbase in
lemma Digits.mem {cs : List Char} {n : Nat} (h : Digits base cs n) :
    ∀ c ∈ cs, c = '_' ∨ ∃ d, IsDigit base c d := by
  induction h with
  | single digit => simpa using .inr ⟨_,digit⟩
  | next _ digit ih =>
    exact List.forall_mem_append.mpr ⟨ih,List.forall_mem_singleton.mpr (.inr ⟨_,digit⟩)⟩
  | underscore _ ih =>
    exact List.forall_mem_append.mpr ⟨ih,List.forall_mem_singleton.mpr (.inl rfl)⟩

theorem signed_eq_some_iff {cs : List Char} {m : Int} :
    signed base cs = some m ↔ Signed base cs m := by
  constructor
  · intro h
    unfold signed at h
    split at h
    · next rest =>
      cases hn : grouped base rest with
      | none => simp [hn] at h
      | some n =>
        obtain rfl : -(n : Int) = m := by simpa [hn] using h
        simpa using Signed.mk .minus ((grouped_eq_some_iff hbase).mp hn)
    · unfold magnitude at h
      split at h
      · obtain ⟨n,hn,rfl⟩ := Option.map_eq_some_iff.mp h
        simpa using Signed.mk .plus ((grouped_eq_some_iff hbase).mp hn)
      · obtain ⟨n,hn,rfl⟩ := Option.map_eq_some_iff.mp h
        simpa using Signed.mk .none ((grouped_eq_some_iff hbase).mp hn)
  · rintro ⟨hsign,hdigits⟩
    have hread := (grouped_eq_some_iff hbase).mpr hdigits
    cases hsign with
    | none =>
      obtain ⟨c,d,rest,rfl,hc⟩ := hdigits.head
      rw [List.nil_append, signed, magnitude, hread]
      · simp
      · rintro _ heq
        exact hc.ne hbase (by decide) (List.cons.inj heq).1
      · rintro _ heq
        exact hc.ne hbase (by decide) (List.cons.inj heq).1
    | plus => simp [signed, magnitude, hread]
    | minus => simp [signed, hread]

omit hbase in
lemma Signed.mem {cs : List Char} {m : Int} (h : Signed base cs m) :
    ∀ c ∈ cs, c ∈ ['+', '-', '_'] ∨ ∃ d, IsDigit base c d := by
  cases h with
  | mk hsign hdigits =>
    refine List.forall_mem_append.mpr ⟨?_,fun c hc => ?_⟩
    · cases hsign <;> simp
    · exact (hdigits.mem c hc).imp_left (by rintro rfl; simp)

/-- What has a sign or a digit in front holds no marker. -/
lemma Signed.ne_marker {cs rest : List Char} {m : Int} (h : Signed base cs m) {e : Char}
    (he : e = 'x' ∨ e = 'X') : cs ≠ '0' :: e :: rest := by
  rintro rfl
  rcases h.mem e (by simp) with hother | ⟨d,hdigit⟩
  · rcases he with rfl | rfl <;> exact absurd hother (by decide)
  · rcases he with rfl | rfl <;> exact hdigit.ne hbase (by decide) rfl

theorem marked_eq_some_iff {cs : List Char} {m : Int} :
    marked base cs = some m ↔ Marked base cs m := by
  constructor
  · intro h
    unfold marked at h
    split at h
    · exact .mk .lower ((signed_eq_some_iff (Nat.le_refl 16)).mp h)
    · exact .mk .upper ((signed_eq_some_iff (Nat.le_refl 16)).mp h)
    · exact .mk .none ((signed_eq_some_iff hbase).mp h)
  · rintro ⟨hmarker,hvalue⟩
    cases hmarker with
    | lower => exact (signed_eq_some_iff (Nat.le_refl 16)).mpr hvalue
    | upper => exact (signed_eq_some_iff (Nat.le_refl 16)).mpr hvalue
    | none =>
      rw [List.nil_append]
      unfold marked
      split
      · exact absurd rfl (hvalue.ne_marker hbase (.inl rfl))
      · exact absurd rfl (hvalue.ne_marker hbase (.inr rfl))
      · exact (signed_eq_some_iff hbase).mpr hvalue

/-! ## Numbers between blanks -/

lemma Signed.isWord {cs : List Char} {m : Int} (h : Signed base cs m) : IsWord cs := by
  intro c hc
  rcases h.mem c hc with hother | ⟨d,hdigit⟩
  · have hall : IsWord ['+', '-', '_'] := by decide
    exact hall c hother
  · have hrange := hdigit.range hbase
    exact not_blank_of_isAlphanum (isAlphanum_iff.mpr (by omega))

lemma Marked.isWord {cs : List Char} {m : Int} (h : Marked base cs m) : IsWord cs := by
  cases h with
  | mk hmarker hvalue =>
    cases hmarker with
    | none => exact hvalue.isWord hbase
    | lower => exact IsWord.append (by decide) (hvalue.isWord (Nat.le_refl 16))
    | upper => exact IsWord.append (by decide) (hvalue.isWord (Nat.le_refl 16))

/-- A sign in front that makes a number negative may be taken for the outer one. -/
lemma Marked.of_minus {rest : List Char} {m : Int} (h : Marked base ('-' :: rest) m) :
    Marked base rest (-m) := by
  generalize hcs : '-' :: rest = cs at h
  obtain ⟨hmarker,hvalue⟩ := h
  cases hmarker with
  | lower => cases (List.cons.inj hcs).1
  | upper => cases (List.cons.inj hcs).1
  | none =>
    obtain ⟨hsign,hdigits⟩ := hvalue
    cases hsign with
    | none =>
      obtain ⟨c,d,tail,rfl,hc⟩ := hdigits.head
      exact absurd (List.cons.inj hcs).1.symm (hc.ne hbase (by decide))
    | plus => cases (List.cons.inj hcs).1
    | minus =>
      obtain rfl := (List.cons.inj hcs).2
      simpa using Marked.mk .none (Signed.mk .none hdigits)

/-- A text reads as a number exactly if it stands for it. -/
theorem read_eq_some_iff {s : String} {m : Int} :
    read base s = some m ↔ Writes base s.toList m := by
  constructor
  · intro h
    obtain ⟨front,back,hfront,hback,hs⟩ := exists_blanks_trim s.toList
    rw [hs]
    unfold read at h
    split at h
    · next rest htrim =>
      obtain ⟨m,hm,rfl⟩ := Option.map_eq_some_iff.mp h
      rw [htrim, ← neg_one_mul]
      exact .mk hfront .minus ((marked_eq_some_iff hbase).mp hm) hback
    · rw [← one_mul m]
      exact .mk hfront .none ((marked_eq_some_iff hbase).mp h) hback
  · intro h
    generalize hs : s.toList = cs at h
    obtain ⟨hfront,hlead,hvalue,hback⟩ := h
    unfold read
    have hread := (marked_eq_some_iff hbase).mpr hvalue
    cases hlead with
    | minus =>
      have hword : IsWord (['-'] ++ _) := IsWord.append (by decide) (hvalue.isWord hbase)
      rw [hs, trim_word_between hfront hword hback]
      simp [hread]
    | none =>
      rw [hs, List.nil_append, trim_word_between hfront (hvalue.isWord hbase) hback]
      split
      · rw [(marked_eq_some_iff hbase).mpr (hvalue.of_minus hbase)]
        simp
      · rw [one_mul]
        exact hread

end Reading

example : read 10 " -0x+1_0\n" = some (-16) := by decide

end DeployCheck.Text.Integer
