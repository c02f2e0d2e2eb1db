import Mathlib.Data.List.Basic
import Mathlib.Data.UInt
import Mathlib.Tactic.Common

/-! The bytes of a text in UTF-8. An ASCII character is its one byte; every other character starts
with a byte that is no ASCII. -/
namespace DeployCheck.Text

lemma toList_loop (bytes : ByteArray) (i : Nat) (r : List UInt8) :
    ByteArray.toList.loop bytes i r = r.reverse ++ bytes.data.toList.drop i := by
  fun_induction ByteArray.toList.loop bytes i r with
  | case1 i r hlt ih =>
    have hlength : i < bytes.data.toList.length := hlt
    have hget : bytes.get! i = bytes.data.toList[i] := by simp [ByteArray.get!, hlt]
    have hdrop : bytes.data.toList.drop i =
        bytes.data.toList[i] :: bytes.data.toList.drop (i + 1) :=
      List.drop_eq_getElem_cons hlength
    rw [ih, hget, hdrop, List.reverse_cons, List.append_assoc, List.singleton_append]
  | case2 i r hge =>
    rw [List.drop_eq_nil_of_le (Nat.le_of_not_lt hge), List.append_nil]

lemma toList_eq_data (bytes : ByteArray) : bytes.toList = bytes.data.toList := toList_loop _ 0 []

/-- The bytes of a text are those of its characters. -/
theorem toList_toUTF8 (s : String) : s.toUTF8.toList = s.toList.flatMap String.utf8EncodeChar := by
  rw [toList_eq_data, String.toUTF8, ← String.utf8Encode_toList, List.utf8Encode,
    List.toList_data_toByteArray]

/-- A text is read back from its bytes. -/
theorem fromUTF8?_toUTF8 (s : String) : String.fromUTF8? ⟨s.toUTF8.toList.toArray⟩ = some s := by
  have hbytes : (⟨s.toUTF8.toList.toArray⟩ : ByteArray) = s.toUTF8 := by
    rw [toList_eq_data]
  rw [hbytes, String.fromUTF8?, String.toUTF8_eq_toByteArray, dif_pos s.isValidUTF8]
  rfl

lemma utf8EncodeChar_of_ascii {c : Char} (h : c.toNat < 128) :
    String.utf8EncodeChar c = [UInt8.ofNat c.toNat] :=
  if_pos (show c.val.toNat ≤ 127 from Nat.le_of_lt_succ h)

lemma exists_utf8EncodeChar {c : Char} (h : 128 ≤ c.toNat) :
    ∃ b rest, String.utf8EncodeChar c = b :: rest ∧ 128 ≤ b.toNat := by
  have hlarge : ¬c.val.toNat ≤ 127 := by
    change 128 ≤ c.val.toNat at h
    omega
  unfold String.utf8EncodeChar
  simp only [if_neg hlarge]
  split_ifs <;>
  · refine ⟨_,_,rfl,?_⟩
    rw [UInt8.toNat_ofNat']
    omega

/-- The character whose code point is a byte. -/
def charOfByte (b : UInt8) : Char := Char.ofNat b.toNat

theorem toNat_charOfByte (b : UInt8) : (charOfByte b).toNat = b.toNat := by
  have hvalid : b.toNat.isValidChar := Or.inl (by have := b.toNat_lt; omega)
  rw [charOfByte, Char.ofNat, dif_pos hvalid]
  rfl

theorem charOfByte_injective : Function.Injective charOfByte := by
  intro b d h
  apply UInt8.toNat_inj.mp
  rw [← toNat_charOfByte b, ← toNat_charOfByte d, h]

lemma charOfByte_ofNat {c : Char} (h : c.toNat < 128) : charOfByte (UInt8.ofNat c.toNat) = c := by
  rw [charOfByte, UInt8.toNat_ofNat', Nat.mod_eq_of_lt (by omega), Char.ofNat_toNat]

/-- A text whose bytes are ASCII has no other characters. -/
theorem ascii_of_toUTF8 {s : String} (h : ∀ b ∈ s.toUTF8.toList, b.toNat < 128) :
    ∀ c ∈ s.toList, c.toNat < 128 := by
  intro c hc
  by_contra hlarge
  obtain ⟨b,rest,hbytes,hb⟩ := exists_utf8EncodeChar (Nat.le_of_not_lt hlarge)
  have hmem : b ∈ s.toUTF8.toList := by
    rw [toList_toUTF8]
    exact List.mem_flatMap.mpr ⟨c,hc,by simp [hbytes]⟩
  have := h b hmem
  omega

/-- The bytes of an ASCII text are its characters. -/
theorem map_charOfByte_toUTF8 {s : String} (h : ∀ c ∈ s.toList, c.toNat < 128) :
    s.toUTF8.toList.map charOfByte = s.toList := by
  rw [toList_toUTF8]
  generalize s.toList = cs at h ⊢
  induction cs with
  | nil => rfl
  | cons c cs ih =>
    rw [List.forall_mem_cons] at h
    rw [List.flatMap_cons, List.map_append, utf8EncodeChar_of_ascii h.1, List.map_singleton,
      charOfByte_ofNat h.1, ih h.2, List.singleton_append]

end DeployCheck.Text
