import DeployCheck.Proofs.Text.Encoded
import DeployCheck.Proofs.Text.HexReading

/-! Reading hexadecimal strictly. Whatever other characters a text holds, it has bytes exactly if it
is made of pairs of digits. -/
namespace DeployCheck.Text.Hex

lemma ascii_of_isDigit {c : Char} (h : isDigit c = true) : c.toNat < 128 := by
  rw [isDigit_iff] at h
  omega

/-- The strict reader in terms of the characters that it looks at. -/
lemma decode_of_chars {s : String} {cs : List Char} (h : s.toUTF8.toList.map charOfByte = cs) :
    decode s =
      if cs.length % 2 = 1 then .error .oddLength
      else match cs.findIdx? (fun c => !isDigit c) with
        | some i => .error (.invalidCharacter (cs.getD i '0') i)
        | none => .ok ((bytes cs).getD []) := by
  subst h
  rfl

lemma decode_of_bytes {s : String} {bs : List UInt8} (h : bytes s.toList = some bs) :
    decode s = .ok bs := by
  obtain ⟨hdigits,hlen⟩ := digits_of_bytes h
  have hnone : s.toList.findIdx? (fun c => !isDigit c) = none := by
    simpa [List.findIdx?_eq_none_iff] using hdigits
  have heven : ¬s.toList.length % 2 = 1 := by omega
  rw [decode_of_chars (map_charOfByte_toUTF8 fun c hc => ascii_of_isDigit (hdigits c hc)),
    if_neg heven, hnone, h, Option.getD_some]

/-- The strict reader takes pairs of digits and nothing else. -/
theorem decode_eq_ok_iff {s : String} {bs : List UInt8} :
    decode s = .ok bs ↔ bytes s.toList = some bs := by
  refine ⟨fun h => ?_,decode_of_bytes⟩
  have hread := h
  rw [decode_of_chars rfl] at hread
  split at hread
  · cases hread
  · next heven =>
    split at hread
    · cases hread
    · next hnone =>
      have hdigits : ∀ c ∈ s.toUTF8.toList.map charOfByte, isDigit c = true := by
        simpa [List.findIdx?_eq_none_iff] using hnone
      have hascii : ∀ b ∈ s.toUTF8.toList, b.toNat < 128 := fun b hb =>
        toNat_charOfByte b ▸ ascii_of_isDigit (hdigits _ (List.mem_map_of_mem hb))
      -- the characters looked at are those of the text, which then has bytes
      rw [map_charOfByte_toUTF8 (ascii_of_toUTF8 hascii)] at heven hdigits
      obtain ⟨found,hfound⟩ := exists_bytes hdigits (by omega)
      rw [hfound, Except.ok.inj (h.symm.trans (decode_of_bytes hfound))]

/-- A text for `size` bytes: at most one marker, then two digits for each byte. -/
def Spells (size : Nat) (s : String) : Prop :=
  ∃ digits : List Char, (∀ c ∈ digits, isDigit c = true) ∧ digits.length = 2 * size ∧
    (s.toList = digits ∨ s.toList = '0' :: 'x' :: digits ∨ s.toList = '0' :: 'X' :: digits)

lemma dropMarker_cases (cs : List Char) :
    cs = dropMarker cs ∨ cs = '0' :: 'x' :: dropMarker cs ∨ cs = '0' :: 'X' :: dropMarker cs := by
  unfold dropMarker
  split <;> simp

lemma dropMarker_of_marked {cs digits : List Char} (hdigits : ∀ c ∈ digits, isDigit c = true)
    (h : cs = digits ∨ cs = '0' :: 'x' :: digits ∨ cs = '0' :: 'X' :: digits) :
    dropMarker cs = digits := by
  rcases h with rfl | rfl | rfl
  · exact dropMarker_of_digits hdigits
  · rfl
  · rfl

/-- After at most one marker, a text has bytes exactly if it is made of pairs of digits. -/
theorem spells_iff {size : Nat} {s : String} :
    Spells size s ↔ ∃ bs, bytes (dropMarker s.toList) = some bs ∧ bs.length = size := by
  constructor
  · rintro ⟨digits,hdigits,hlen,hs⟩
    have hdrop := dropMarker_of_marked hdigits hs
    obtain ⟨bs,hbs⟩ := exists_bytes hdigits (by omega)
    have hcount := (digits_of_bytes hbs).2
    exact ⟨bs,hdrop ▸ hbs,by omega⟩
  · rintro ⟨bs,hbs,rfl⟩
    obtain ⟨hdigits,hlen⟩ := digits_of_bytes hbs
    exact ⟨_,hdigits,hlen,dropMarker_cases _⟩

end DeployCheck.Text.Hex
