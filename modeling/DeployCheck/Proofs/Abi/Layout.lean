import DeployCheck.Abi.Encoding
import DeployCheck.Proofs.Abi.Types
import DeployCheck.Proofs.Abi.Words
import Mathlib.Algebra.BigOperators.Group.List.Basic
import Mathlib.Data.List.Forall2

/-! How long encoded values are: a static value fills its part of the head, and no part of a
sequence is longer than the sequence. -/
namespace DeployCheck.Abi

namespace Value

mutual

/-- A value belongs to a type. An array says how many values it has in one word. -/
inductive Fits : Ty → Value → Prop
  | address {bs : List UInt8} (hsize : bs.length = 20) : Fits .address (.bytes bs)
  | bool {b : Bool} : Fits .bool (.bool b)
  | uint {bits : Nat} {n : Int} (hlo : 0 ≤ n) (hhi : n < 2 ^ bits) : Fits (.uint bits) (.int n)
  | int {bits : Nat} {n : Int} (hlo : -2 ^ (bits - 1) ≤ n) (hhi : n < 2 ^ (bits - 1)) :
      Fits (.int bits) (.int n)
  | fixedBytes {size : Nat} {bs : List UInt8} (hsize : bs.length = size) :
      Fits (.fixedBytes size) (.bytes bs)
  | bytes {bs : List UInt8} : Fits .bytes (.bytes bs)
  | string {s : String} : Fits .string (.string s)
  | array {item : Ty} {vs : List Value} (hcount : vs.length < 2 ^ 256)
      (h : FitAll (List.replicate vs.length item) vs) : Fits (.array item) (.list vs)
  | fixedArray {item : Ty} {size : Nat} {vs : List Value} (hsize : vs.length = size)
      (h : FitAll (List.replicate vs.length item) vs) : Fits (.fixedArray item size) (.list vs)
  | tuple {fields : List (String × Ty)} {vs : List Value}
      (h : FitAll (fields.map Prod.snd) vs) : Fits (.tuple fields) (.list vs)

/-- Values belong to types, one by one. -/
inductive FitAll : List Ty → List Value → Prop
  | nil : FitAll [] []
  | cons {ty : Ty} {tys : List Ty} {v : Value} {vs : List Value} (h : Fits ty v)
      (hrest : FitAll tys vs) : FitAll (ty :: tys) (v :: vs)

end

/-- The part of a sequence that holds a value. -/
def part (ty : Ty) (v : Value) : Part := ⟨ty.isDynamic,ty.headSize,encode ty v⟩

lemma parts_eq_zipWith (fields : List (String × Ty)) (vs : List Value) :
    parts fields vs = List.zipWith part (fields.map Prod.snd) vs := by
  induction fields generalizing vs with
  | nil => simp [parts]
  | cons f rest ih =>
    cases vs with
    | nil => simp [parts]
    | cons v vs => rw [parts, ih, List.map_cons, List.zipWith_cons_cons, part]

theorem encodeSequence_eq (tys : List Ty) (vs : List Value) :
    encodeSequence tys vs = Part.join (List.zipWith part tys vs) := by
  rw [encodeSequence, parts_eq_zipWith, List.map_map, Function.comp_def, List.map_id']

lemma map_eq_zipWith_part (item : Ty) (vs : List Value) :
    (vs.map fun v => ⟨item.isDynamic,item.headSize,encode item v⟩) =
      List.zipWith part (List.replicate vs.length item) vs := by
  induction vs with
  | nil => rfl
  | cons v vs ih =>
    rw [List.map_cons, ih, List.length_cons, List.replicate_succ, List.zipWith_cons_cons, part]

theorem encode_array (item : Ty) (vs : List Value) : encode (.array item) (.list vs) =
    word vs.length ++ encodeSequence (List.replicate vs.length item) vs := by
  rw [encode, map_eq_zipWith_part, encodeSequence_eq]

theorem encode_fixedArray (item : Ty) (size : Nat) (vs : List Value) :
    encode (.fixedArray item size) (.list vs) =
      encodeSequence (List.replicate vs.length item) vs := by
  rw [encode, map_eq_zipWith_part, encodeSequence_eq]

theorem encode_tuple (fields : List (String × Ty)) (vs : List Value) :
    encode (.tuple fields) (.list vs) = encodeSequence (fields.map Prod.snd) vs := by
  rw [encode, parts_eq_zipWith, encodeSequence_eq]

end Value

namespace Part

/-- A part says how much of the head it takes, itself or its offset. -/
def Sized (p : Part) : Prop := p.headSize = if p.isDynamic then 32 else p.bytes.length

variable {ps : List Part}

theorem length_heads (h : ∀ p ∈ ps, p.Sized) (offset : Nat) :
    (heads offset ps).length = headLength ps := by
  induction ps generalizing offset with
  | nil => rfl
  | cons p ps ih =>
    have hp : p.Sized := h p (by simp)
    have hrest := ih fun q hq => h q (by simp [hq])
    unfold Sized at hp
    rw [heads, headLength, hp]
    split_ifs with hdyn <;> simp [hrest]

lemma tails_cons (p : Part) (ps : List Part) :
    tails (p :: ps) = (if p.isDynamic then p.bytes else []) ++ tails ps := by
  cases h : p.isDynamic <;> simp [tails, h]

theorem length_join (h : ∀ p ∈ ps, p.Sized) :
    (join ps).length = headLength ps + (tails ps).length := by
  rw [join, List.length_append, length_heads h]

theorem tails_eq_nil (h : ∀ p ∈ ps, p.isDynamic = false) : tails ps = [] := by
  induction ps with
  | nil => rfl
  | cons p ps ih => simp [tails_cons, h p, ih fun q hq => h q (by simp [hq])]

/-- A part is no longer than its sequence. -/
theorem length_bytes_le_length_join (h : ∀ p ∈ ps, p.Sized) {p : Part} (hp : p ∈ ps) :
    p.bytes.length ≤ (join ps).length := by
  rw [length_join h]
  induction ps with
  | nil => cases hp
  | cons q ps ih =>
    rw [headLength, tails_cons, List.length_append]
    rcases List.mem_cons.mp hp with rfl | hp
    · have hsize : p.Sized := h p (by simp)
      unfold Sized at hsize
      split_ifs at hsize ⊢ <;> omega
    · have hrest := ih (fun r hr => h r (by simp [hr])) hp
      omega

end Part

namespace Ty

theorem headSize_of_isDynamic {ty : Ty} (h : ty.isDynamic = true) : ty.headSize = 32 := by
  cases ty with
  | fixedArray item size =>
    have hitem : item.isDynamic = true := h
    rw [headSize, if_pos hitem]
  | tuple fields =>
    have hfields : anyDynamic fields = true := h
    rw [headSize, if_pos hfields]
  | _ => rfl

lemma anyDynamic_eq_false_iff {fields : List (String × Ty)} :
    anyDynamic fields = false ↔ ∀ ty ∈ fields.map Prod.snd, ty.isDynamic = false := by
  induction fields with
  | nil => simp [anyDynamic]
  | cons f rest ih => simp [anyDynamic, ih]

lemma headSizes_eq_sum (fields : List (String × Ty)) :
    headSizes fields = ((fields.map Prod.snd).map headSize).sum := by
  induction fields with
  | nil => rfl
  | cons f rest ih => rw [headSizes, ih, List.map_cons, List.map_cons, List.sum_cons]

end Ty

namespace Value

variable {tys : List Ty} {vs : List Value}

lemma exists_of_mem_parts (h : FitAll tys vs) {p : Part} (hp : p ∈ List.zipWith part tys vs) :
    ∃ ty ∈ tys, ∃ v, Fits ty v ∧ p = part ty v := by
  induction tys generalizing vs with
  | nil => cases hp
  | cons ty tys ih =>
    cases h with
    | cons hfit hrest =>
      rcases List.mem_cons.mp hp with rfl | hp
      · exact ⟨ty,by simp,_,hfit,rfl⟩
      · obtain ⟨other,hmem,v,hv,rfl⟩ := ih hrest hp
        exact ⟨other,by simp [hmem],v,hv,rfl⟩

lemma FitAll.length_eq (h : FitAll tys vs) : vs.length = tys.length := by
  induction tys generalizing vs with
  | nil =>
    cases h
    rfl
  | cons ty tys ih =>
    cases h with
    | cons _ hrest => rw [List.length_cons, List.length_cons, ih hrest]

lemma headLength_parts (hcount : vs.length = tys.length) :
    Part.headLength (List.zipWith part tys vs) = (tys.map Ty.headSize).sum := by
  induction tys generalizing vs with
  | nil => rfl
  | cons ty tys ih =>
    obtain ⟨v,vs,rfl⟩ := List.exists_cons_of_length_eq_add_one hcount
    rw [List.zipWith_cons_cons, Part.headLength, ih (Nat.succ.inj hcount), List.map_cons,
      List.sum_cons, part]

lemma sized_of_length {ty : Ty} {v : Value}
    (h : ty.isDynamic = false → (encode ty v).length = ty.headSize) : (part ty v).Sized := by
  unfold Part.Sized part
  split_ifs with hdyn
  · exact Ty.headSize_of_isDynamic hdyn
  · exact (h (by simpa using hdyn)).symm

lemma length_encodeSequence (h : FitAll tys vs)
    (hlen : ∀ ty ∈ tys, ∀ v, Fits ty v → (encode ty v).length = ty.headSize)
    (hstatic : ∀ ty ∈ tys, ty.isDynamic = false) :
    (encodeSequence tys vs).length = (tys.map Ty.headSize).sum := by
  have hsized : ∀ p ∈ List.zipWith part tys vs, p.Sized := by
    intro p hp
    obtain ⟨ty,hty,v,hv,rfl⟩ := exists_of_mem_parts h hp
    exact sized_of_length fun _ => hlen ty hty v hv
  have htails : Part.tails (List.zipWith part tys vs) = [] := by
    apply Part.tails_eq_nil
    intro p hp
    obtain ⟨ty,hty,v,-,rfl⟩ := exists_of_mem_parts h hp
    exact hstatic ty hty
  rw [encodeSequence_eq, Part.length_join hsized, htails, headLength_parts h.length_eq, List.length_nil,
    Nat.add_zero]

/-- A value of a static type fills its part of the head. -/
theorem length_encode {ty : Ty} (hty : ty.WellFormed) (hstatic : ty.isDynamic = false)
    {v : Value} (h : Fits ty v) : (encode ty v).length = ty.headSize := by
  induction ty using Ty.nested_induction generalizing v with
  | address =>
    cases h with
    | address hsize => exact length_padLeft (by omega)
  | bool =>
    cases h with
    | bool => exact length_word _
  | uint bits =>
    cases h with
    | uint => exact length_intWord _
  | int bits =>
    cases h with
    | int => exact length_intWord _
  | fixedBytes size =>
    cases h with
    | fixedBytes hsize =>
      obtain ⟨hpos,hle⟩ := hty
      have hhead : (Ty.fixedBytes size).headSize = 32 := rfl
      rw [encode, length_padRight, paddedSize, hhead]
      omega
  | bytes => cases hstatic
  | string => cases hstatic
  | array item _ => cases hstatic
  | fixedArray item size ih =>
    cases h with
    | fixedArray hsize hitems =>
      have hitem : item.isDynamic = false := hstatic
      rw [encode_fixedArray, length_encodeSequence hitems, Ty.headSize, if_neg (by simp [hitem])]
      · simp [hsize, Nat.mul_comm]
      · intro ty hmem v hv
        obtain rfl := List.eq_of_mem_replicate hmem
        exact ih hty hitem hv
      · intro ty hmem
        obtain rfl := List.eq_of_mem_replicate hmem
        exact hitem
  | tuple fields ih =>
    cases h with
    | tuple hfields =>
      have hnone : Ty.anyDynamic fields = false := hstatic
      have hall := Ty.anyDynamic_eq_false_iff.mp hnone
      have hwell := (Ty.fieldsWellFormed_iff fields).mp hty
      rw [encode_tuple, length_encodeSequence hfields, Ty.headSize, if_neg (by simp [hnone]),
        Ty.headSizes_eq_sum]
      · intro ty hmem v hv
        obtain ⟨f,hf,rfl⟩ := List.mem_map.mp hmem
        exact ih f hf (hwell f hf) (hall f.2 hmem) hv
      · exact hall

/-- A value has a part of the size that its type gives. -/
theorem sized_part {ty : Ty} (hty : ty.WellFormed) {v : Value} (h : Fits ty v) :
    (part ty v).Sized :=
  sized_of_length fun hstatic => length_encode hty hstatic h

end Value

end DeployCheck.Abi
