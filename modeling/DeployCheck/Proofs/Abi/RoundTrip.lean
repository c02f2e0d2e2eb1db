import DeployCheck.Proofs.Abi.Decoding
import DeployCheck.Proofs.Abi.Layout
import Mathlib.Algebra.Order.Ring.Int

/-! Every value that belongs to its type is read back from its encoding, whatever follows it. -/
namespace DeployCheck.Abi

namespace Slot

/-- A slot reads a value back from the part of a sequence that holds it. -/
structure Reads (slot : Slot) (p : Part) (v : Value) : Prop where
  sized : p.Sized
  size? : slot.size? = if p.isDynamic then none else some p.headSize
  read : ∀ rest, slot.read (p.bytes ++ rest) = some v

/-- Slots read values back from parts, one by one. -/
inductive ReadsAll : List Slot → List Part → List Value → Prop
  | nil : ReadsAll [] [] []
  | cons {slot : Slot} {slots : List Slot} {p : Part} {ps : List Part} {v : Value}
      {vs : List Value} (h : slot.Reads p v) (hrest : ReadsAll slots ps vs) :
      ReadsAll (slot :: slots) (p :: ps) (v :: vs)

variable {slots : List Slot} {ps : List Part} {vs : List Value}

theorem ReadsAll.sized (h : ReadsAll slots ps vs) : ∀ p ∈ ps, p.Sized := by
  induction h with
  | nil => simp
  | cons h _ ih => exact List.forall_mem_cons.mpr ⟨h.sized,ih⟩

/-- What is left of the heads is at `position`, what is left of the tails at `offset`. -/
theorem fetchAll_of_readsAll {block : List UInt8} (h : ReadsAll slots ps vs)
    {position offset : Nat} {before after : List UInt8}
    (hheads : block.drop position = Part.heads offset ps ++ before)
    (htails : block.drop offset = Part.tails ps ++ after)
    (hbound : offset + (Part.tails ps).length < 2 ^ 256) :
    fetchAll block position slots = some vs := by
  induction h generalizing position offset with
  | nil => rfl
  | @cons slot slots p ps v vs hp hrest ih =>
    obtain ⟨hsized,hsize,hread⟩ := hp
    rw [Part.Sized] at hsized
    rw [Part.tails_cons] at htails hbound
    rw [Part.heads] at hheads
    have hwidth : slot.width = p.headSize := by
      rw [width, hsize]
      split_ifs at hsized ⊢
      · rw [hsized, Option.getD_none]
      · rw [Option.getD_some]
    have hskip {front back : List UInt8} (hat : block.drop position = front ++ back)
        (hlen : front.length = p.headSize) : block.drop (position + slot.width) = back := by
      rw [← List.drop_drop, hat, hwidth, List.drop_left' hlen]
    -- a static part moves the first cursor past itself, a dynamic one moves both
    cases hdyn : p.isDynamic with
    | false =>
      simp only [hdyn, Bool.false_eq_true, if_false, List.nil_append, List.append_assoc] at *
      have hfetch : slot.fetch block position = some v := by
        rw [fetch, hsize, hheads]
        exact hread _
      have hothers := ih (hskip hheads hsized.symm) htails hbound
      simp [fetchAll, hfetch, hothers]
    | true =>
      simp only [hdyn, if_true, List.append_assoc, List.length_append] at *
      have hfetch : slot.fetch block position = some v := by
        rw [fetch, hsize, hheads, number?_append (by omega), Option.bind_some, htails]
        exact hread _
      have hnext : block.drop (offset + p.bytes.length) = Part.tails ps ++ after := by
        rw [← List.drop_drop, htails, List.drop_left' rfl]
      have hothers := ih (hskip hheads (by rw [length_word, hsized])) hnext (by omega)
      simp [fetchAll, hfetch, hothers]

/-- Offsets count from the start of the sequence, and the tails follow the heads. -/
theorem fetchAll_join (h : ReadsAll slots ps vs) (hlen : (Part.join ps).length < 2 ^ 256)
    (rest : List UInt8) : fetchAll (Part.join ps ++ rest) 0 slots = some vs := by
  have hstart : (Part.join ps ++ rest).drop 0 =
      Part.heads (Part.headLength ps) ps ++ (Part.tails ps ++ rest) := by
    rw [List.drop_zero, Part.join, List.append_assoc]
  have htails : (Part.join ps ++ rest).drop (Part.headLength ps) = Part.tails ps ++ rest := by
    rw [Part.join, List.append_assoc, List.drop_left' (Part.length_heads h.sized _)]
  rw [Part.length_join h.sized] at hlen
  exact fetchAll_of_readsAll h hstart htails hlen

end Slot

namespace Ty

/-- The values of a type stand in the head if none of them is encoded behind an offset. -/
theorem staticSize?_eq (ty : Ty) :
    ty.staticSize? = if ty.isDynamic then none else some ty.headSize := by
  induction ty using Ty.nested_induction with
  | fixedArray item size ih =>
    rw [staticSize?, ih, isDynamic, headSize]
    split_ifs
    · rfl
    · rw [Option.map_some, Nat.mul_comm]
  | tuple fields ih =>
    have hfields : staticSizes? fields =
        if anyDynamic fields then none else some (headSizes fields) := by
      induction fields with
      | nil => rfl
      | cons f rest ihrest =>
        rw [staticSizes?, ih f (by simp), ihrest fun g hg => ih g (by simp [hg]), anyDynamic,
          headSizes]
        cases f.2.isDynamic <;> cases anyDynamic rest <;> rfl
    rw [staticSize?, hfields, isDynamic, headSize]
    split_ifs <;> rfl
  | _ => rfl

end Ty

namespace Value

/-- A reader of values of a type gets each of them back, if offsets and counts fit words. -/
def ReadBack (ty : Ty) : Prop :=
  ∀ v, Fits ty v → (encode ty v).length < 2 ^ 256 →
    ∀ rest, ty.decode (encode ty v ++ rest) = some v.contents

variable {tys : List Ty} {vs : List Value}

lemma readsAll_parts (h : FitAll tys vs) (hwell : ∀ ty ∈ tys, ty.WellFormed)
    (hread : ∀ ty ∈ tys, ReadBack ty)
    (hlen : ∀ p ∈ List.zipWith part tys vs, p.bytes.length < 2 ^ 256) :
    Slot.ReadsAll (tys.map Ty.slot) (List.zipWith part tys vs) (vs.map contents) := by
  induction tys generalizing vs with
  | nil =>
    cases h
    exact .nil
  | cons ty tys ih =>
    cases h with
    | @cons _ _ v vs hfit hrest =>
      have hone : ty.slot.Reads (part ty v) v.contents := by
        refine ⟨sized_part (hwell ty (by simp)) hfit,Ty.staticSize?_eq ty,?_⟩
        exact hread ty (by simp) v hfit (hlen (part ty v) (by simp))
      refine .cons hone (ih hrest (fun t ht => hwell t (by simp [ht]))
        (fun t ht => hread t (by simp [ht])) ?_)
      exact fun p hp => hlen p (by simp [hp])

/-- A sequence is read back if each of its types is. -/
theorem fetchAll_encodeSequence (h : FitAll tys vs) (hwell : ∀ ty ∈ tys, ty.WellFormed)
    (hread : ∀ ty ∈ tys, ReadBack ty) (hlen : (encodeSequence tys vs).length < 2 ^ 256)
    (rest : List UInt8) :
    Slot.fetchAll (encodeSequence tys vs ++ rest) 0 (tys.map Ty.slot) =
      some (vs.map contents) := by
  have hsized : ∀ p ∈ List.zipWith part tys vs, p.Sized := by
    intro p hp
    obtain ⟨ty,hty,v,hv,rfl⟩ := exists_of_mem_parts h hp
    exact sized_part (hwell ty hty) hv
  rw [encodeSequence_eq] at hlen ⊢
  apply Slot.fetchAll_join _ hlen
  apply readsAll_parts h hwell hread
  intro p hp
  have hle := Part.length_bytes_le_length_join hsized hp
  omega

lemma read_withLength {bs : List UInt8} (hlen : (withLength bs).length < 2 ^ 256)
    (rest : List UInt8) :
    ((number? (withLength bs ++ rest)).bind fun size =>
      (paddedRight? size ((withLength bs ++ rest).drop 32)).map bytes) = some (.bytes bs) := by
  have hsize : bs.length < 2 ^ 256 := by
    rw [length_withLength, paddedSize] at hlen
    omega
  rw [withLength, List.append_assoc, number?_append hsize, Option.bind_some,
    List.drop_left' (length_word _), paddedRight?_append, Option.map_some]

lemma readBack_uint {bits : Nat} (hbits : bits ≤ 256) : ReadBack (.uint bits) := by
  intro v h _ rest
  cases h with
  | @uint _ n hlo hhi =>
    have hword : n < 2 ^ 256 := lt_of_lt_of_le hhi (pow_le_pow_right₀ (by norm_num) hbits)
    have hn : ((n.toNat : Nat) : Int) = n := Int.toNat_of_nonneg hlo
    have hrange : n.toNat < 2 ^ bits := (Int.toNat_lt hlo).mpr (by exact_mod_cast hhi)
    rw [encode, Ty.decode, number?_intWord_append hlo hword, Option.bind_some, if_pos hrange, hn,
      contents]

lemma readBack_int {bits : Nat} (hbits : bits ≤ 256) : ReadBack (.int bits) := by
  intro v h _ rest
  cases h with
  | @int _ n hlo hhi =>
    have hpow : (2 : Int) ^ (bits - 1) ≤ 2 ^ 255 :=
      pow_le_pow_right₀ (by norm_num) (by omega)
    rw [encode, Ty.decode, signed_append (by omega) (by omega), Option.bind_some,
      if_pos ⟨hlo,hhi⟩, contents]

lemma fetchAll_encodeItems {item : Ty} (hty : item.WellFormed) (hread : ReadBack item)
    (h : FitAll (List.replicate vs.length item) vs)
    (hlen : (encodeSequence (List.replicate vs.length item) vs).length < 2 ^ 256)
    (rest : List UInt8) :
    Slot.fetchAll (encodeSequence (List.replicate vs.length item) vs ++ rest) 0
      (List.replicate vs.length ⟨item.staticSize?,item.decode⟩) = some (vs.map contents) := by
  have hslots : List.replicate vs.length ⟨item.staticSize?,item.decode⟩ =
      (List.replicate vs.length item).map Ty.slot := by
    rw [List.map_replicate, Ty.slot]
  rw [hslots]
  exact fetchAll_encodeSequence h (fun ty hmem => List.eq_of_mem_replicate hmem ▸ hty)
    (fun ty hmem => List.eq_of_mem_replicate hmem ▸ hread) hlen rest

/-- A value is read back from the front of its encoding. -/
theorem readBack {ty : Ty} (hty : ty.WellFormed) : ReadBack ty := by
  induction ty using Ty.nested_induction with
  | address =>
    intro v h _ rest
    cases h with
    | @address bs hsize =>
      rw [encode, Ty.decode, ← hsize, paddedLeft?_append (by omega), Option.map_some, contents]
  | bool =>
    intro v h _ rest
    cases h with
    | @bool b =>
      rw [encode, Ty.decode, number?_append (by cases b <;> decide), Option.bind_some, contents]
      cases b <;> rfl
  | uint bits => exact readBack_uint hty.2.1
  | int bits => exact readBack_int hty.2.1
  | fixedBytes size =>
    intro v h _ rest
    cases h with
    | fixedBytes hsize =>
      rw [encode, Ty.decode, ← hsize, paddedRight?_append, Option.map_some, contents]
  | bytes =>
    intro v h hlen rest
    cases h with
    | bytes =>
      rw [encode] at hlen ⊢
      rw [Ty.decode, read_withLength hlen, contents]
  | string =>
    intro v h hlen rest
    cases h with
    | string =>
      rw [encode] at hlen ⊢
      rw [Ty.decode, read_withLength hlen, contents]
  | array item ih =>
    intro v h hlen rest
    cases h with
    | array hcount hitems =>
      rw [encode_array] at hlen ⊢
      rw [List.length_append, length_word] at hlen
      have hitem : item.WellFormed := hty
      have hfetch := fetchAll_encodeItems hitem (ih hitem) hitems (by omega) rest
      rw [List.append_assoc, Ty.decode, number?_append hcount, Option.bind_some,
        List.drop_left' (length_word _), hfetch, Option.map_some, contents, allContents_eq_map]
  | fixedArray item size ih =>
    intro v h hlen rest
    cases h with
    | fixedArray hsize hitems =>
      subst hsize
      have hitem : item.WellFormed := hty
      rw [encode_fixedArray] at hlen ⊢
      rw [Ty.decode, fetchAll_encodeItems hitem (ih hitem) hitems hlen, Option.map_some, contents,
        allContents_eq_map]
  | tuple fields ih =>
    intro v h hlen rest
    cases h with
    | @tuple _ vs hfields =>
      have hwell := (Ty.fieldsWellFormed_iff fields).mp hty
      rw [encode_tuple] at hlen ⊢
      have hfetch := fetchAll_encodeSequence hfields (List.forall_mem_map.mpr hwell)
        (List.forall_mem_map.mpr fun f hf => ih f hf (hwell f hf)) hlen rest
      rw [Ty.decode, Ty.slots_eq_map, hfetch, Option.map_some, contents, allContents_eq_map]

/-- A sequence is read back from the data that encode it. -/
theorem decodeSequence_encodeSequence {tys : List Ty} {vs : List Value} (h : FitAll tys vs)
    (hwell : ∀ ty ∈ tys, ty.WellFormed) (hlen : (encodeSequence tys vs).length < 2 ^ 256) :
    decodeSequence tys (encodeSequence tys vs) = some (vs.map contents) := by
  have hfetch := fetchAll_encodeSequence h hwell (fun ty hmem => readBack (hwell ty hmem)) hlen []
  rw [List.append_nil] at hfetch
  exact hfetch

end Value

end DeployCheck.Abi
