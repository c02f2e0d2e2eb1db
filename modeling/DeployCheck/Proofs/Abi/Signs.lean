import DeployCheck.Proofs.Abi.Spellings

/-! Signs of integer texts. A minus sign may stand in front of a number, but one more sign, of
either kind, is read in front of its digits, so a text is read as it is plainly written exactly if
it has no other sign than a first minus. -/
namespace DeployCheck

namespace Text.Integer

/-- A text stands for a number with a sign in front at most: blanks around a minus sign, the marker
of base 16 and digits, of which the digits alone have to be there. -/
inductive WritesPlainly (base : Nat) : List Char → Int → Prop
  | mk {front lead marker digits back : List Char} {l : Int} {b n : Nat}
    (blank_front : ∀ c ∈ front, isBlank c = true) (lead_in_front : Lead lead l)
    (marker_in_front : Marker base marker b) (value : Digits b digits n)
    (blank_back : ∀ c ∈ back, isBlank c = true) :
    WritesPlainly base (front ++ (lead ++ (marker ++ digits)) ++ back) (l * n)

/-- A word has no sign but a minus in front. -/
def OneSign (word : List Char) : Prop := '+' ∉ word ∧ '-' ∉ word.tail

instance (word : List Char) : Decidable (OneSign word) := instDecidableAnd

section Reading

variable {base : Nat} (hbase : base ≤ 16)

include hbase

lemma Marker.base_le {marker : List Char} {b : Nat} (h : Marker base marker b) : b ≤ 16 := by
  cases h with
  | none => exact hbase
  | lower | upper => exact Nat.le_refl 16

/-- Neither a marker nor digits hold a sign. -/
lemma sign_not_mem {marker digits : List Char} {b n : Nat} (hmarker : Marker base marker b)
    (hdigits : Digits b digits n) {c : Char} (hc : c = '+' ∨ c = '-') : c ∉ marker ++ digits := by
  have hdigit : ∀ d < 16, c.toLower ≠ d.digitChar := by rcases hc with rfl | rfl <;> decide
  have hb := hmarker.base_le hbase
  rw [List.mem_append, not_or]
  constructor
  · cases hmarker <;> rcases hc with rfl | rfl <;> decide
  · intro hmem
    rcases hdigits.mem c hmem with rfl | ⟨d,hd⟩
    · rcases hc with hc | hc <;> cases hc
    · exact hd.ne hb hdigit rfl

lemma trim_of_marked {front lead rest back : List Char} {l m : Int}
    (hfront : ∀ c ∈ front, isBlank c = true) (hlead : Lead lead l) (hvalue : Marked base rest m)
    (hback : ∀ c ∈ back, isBlank c = true) :
    trim (front ++ (lead ++ rest) ++ back) = lead ++ rest := by
  have hword : IsWord (lead ++ rest) := by
    refine IsWord.append ?_ (hvalue.isWord hbase)
    cases hlead <;> decide
  exact trim_word_between hfront hword hback

lemma WritesPlainly.oneSign {cs : List Char} {m : Int} (h : WritesPlainly base cs m) :
    OneSign (trim cs) := by
  obtain ⟨hfront,hlead,hmarker,hdigits,hback⟩ := h
  have hvalue := Marked.mk hmarker (Signed.mk .none hdigits)
  rw [List.nil_append] at hvalue
  have hplus := sign_not_mem hbase hmarker hdigits (.inl rfl)
  have hminus := sign_not_mem hbase hmarker hdigits (.inr rfl)
  rw [trim_of_marked hbase hfront hlead hvalue hback]
  cases hlead with
  | none => exact ⟨hplus,fun hmem => hminus (List.mem_of_mem_tail hmem)⟩
  | minus => exact ⟨by simpa using hplus,hminus⟩

/-- A number is written plainly exactly if it is written without a sign but a first minus. -/
theorem writesPlainly_iff {cs : List Char} {m : Int} (h : Writes base cs m) :
    WritesPlainly base cs m ↔ OneSign (trim cs) := by
  refine ⟨WritesPlainly.oneSign hbase,fun hone => ?_⟩
  obtain ⟨hfront,hlead,hvalue,hback⟩ := h
  rw [trim_of_marked hbase hfront hlead hvalue hback] at hone
  obtain ⟨hplus,hminus⟩ := hone
  obtain ⟨hmarker,hsign,hdigits⟩ := hvalue
  cases hsign with
  | none =>
    rw [one_mul]
    exact .mk hfront hlead hmarker hdigits hback
  | plus => simp at hplus
  | minus =>
    -- the second sign is the only one exactly if nothing stands in front of it
    cases hlead with
    | minus => simp at hminus
    | none =>
      cases hmarker with
      | lower | upper => simp at hminus
      | none =>
        have hplain := WritesPlainly.mk hfront .minus .none hdigits hback
        rw [one_mul]
        exact hplain

end Reading

end Text.Integer

namespace Abi.Value

open Text.Integer

/-- An integer text is read as the number that it stands for, and as nothing else. It is written
plainly, for the number that is read, exactly if it has no sign but a first minus. -/
theorem integer_text_eq_ok_iff (r : Radix) (s : String) (m : Int) :
    (integer r (.str s) = .ok m ↔ Writes r.base s.toList m) ∧
    (integer r (.str s) = .ok m →
      (WritesPlainly r.base s.toList m ↔ OneSign (Text.trim s.toList))) := by
  have hbase : r.base ≤ 16 := by cases r <;> decide
  have hread : integer r (.str s) = .ok m ↔ Writes r.base s.toList m := by
    rw [integer_eq_ok_iff]
    constructor
    · intro h
      cases h with
      | text h => exact h
    · exact .text
  exact ⟨hread,fun h => writesPlainly_iff hbase (hread.mp h)⟩

/-- A negative number with an underscore between its digits, and a blank behind. -/
theorem integer_text_eq_ok_iff_negative :
    integer .hex (.str "-1_0 ") = .ok (-16) ∧ WritesPlainly 16 "-1_0 ".toList (-16) := by
  have hread : integer .hex (.str "-1_0 ") = .ok (-16) :=
    Result.eq_ok_of_toOption (by decide +kernel)
  exact ⟨hread,((integer_text_eq_ok_iff .hex _ _).2 hread).mpr (by decide)⟩

/-- A text with two minus signs is read as the number behind them. -/
theorem integer_two_signs : ¬∀ (r : Radix) (s : String) (m : Int), integer r (.str s) = .ok m →
    WritesPlainly r.base s.toList m := by
  intro h
  have hread : integer .hex (.str "--5") = .ok 5 := Result.eq_ok_of_toOption (by decide +kernel)
  have hone := (h _ _ _ hread).oneSign (Nat.le_refl 16)
  exact absurd hone (by decide)

end Abi.Value

end DeployCheck
