import DeployCheck.Proofs.Abi.Conformance
import Mathlib.Algebra.BigOperators.Ring.List

/-! The layout of encoded values. The heads of a sequence stand first, then the encodings of its
dynamic members in order and without gaps, and whatever fills up a word is zero. -/
namespace DeployCheck.Abi

/-- A word that denotes a number, up to the digits that no word has. -/
structure IsWord (n : Nat) (w : List UInt8) : Prop where
  length_eq : w.length = 32
  number_eq : number w = n % 2 ^ 256

/-- The encodings of the dynamic members of a sequence, in order. -/
def dynamicOnes (tys : List Ty) (es : List (List UInt8)) : List (List UInt8) :=
  ((tys.zip es).filter fun p => p.1.isDynamic).map Prod.snd

/-- Where the encoding of a dynamic member stands: behind all heads and the dynamic members before
it. -/
def offsetOf (tys : List Ty) (es : List (List UInt8)) (i : Nat) : Nat :=
  (tys.map Ty.headSize).sum + (dynamicOnes (tys.take i) (es.take i)).flatten.length

/-- What stands for a member in the heads: a static member itself, or the offset of a dynamic one. -/
structure IsHead (ty : Ty) (e : List UInt8) (offset : Nat) (head : List UInt8) : Prop where
  length_eq : head.length = ty.headSize
  static : ty.isDynamic = false → head = e
  dynamic : ty.isDynamic = true → IsWord offset head

/-- A sequence of encoded members is their heads and then the dynamic ones. -/
def IsSequence (tys : List Ty) (es : List (List UInt8)) (out : List UInt8) : Prop :=
  ∃ heads : List (List UInt8), out = heads.flatten ++ (dynamicOnes tys es).flatten ∧
    heads.length = tys.length ∧ ∀ i ty e head, tys[i]? = some ty → es[i]? = some e →
      heads[i]? = some head → IsHead ty e (offsetOf tys es i) head

namespace Value

mutual

/-- Bytes are the encoding of a value of a type. -/
inductive Laid : Ty → Value → List UInt8 → Prop
  | address {bs : List UInt8} (hsize : bs.length = 20) :
      Laid .address (.bytes bs) (List.replicate 12 0 ++ bs)
  | bool {b : Bool} {w : List UInt8} (hword : IsWord b.toNat w) : Laid .bool (.bool b) w
  | uint {bits n : Nat} {w : List UInt8} (hbits : n < 2 ^ bits) (hword : IsWord n w) :
      Laid (.uint bits) (.int n) w
  | int {bits : Nat} {n : Int} {w : List UInt8} (hlength : w.length = 32)
      (hsigned : signed (number w) = n) : Laid (.int bits) (.int n) w
  | fixedBytes {size : Nat} {bs : List UInt8} (hsize : bs.length = size) :
      Laid (.fixedBytes size) (.bytes bs) (filled bs)
  | bytes {bs w : List UInt8} (hword : IsWord bs.length w) :
      Laid .bytes (.bytes bs) (w ++ filled bs)
  | string {s : String} {w : List UInt8} (hword : IsWord s.toUTF8.toList.length w) :
      Laid .string (.string s) (w ++ filled s.toUTF8.toList)
  | array {item : Ty} {vs : List Value} {es : List (List UInt8)} {w out : List UInt8}
      (hword : IsWord vs.length w) (hitems : LaidAll (List.replicate vs.length item) vs es)
      (hout : IsSequence (List.replicate vs.length item) es out) :
      Laid (.array item) (.list vs) (w ++ out)
  | fixedArray {item : Ty} {size : Nat} {vs : List Value} {es : List (List UInt8)}
      {out : List UInt8} (hitems : LaidAll (List.replicate size item) vs es)
      (hout : IsSequence (List.replicate size item) es out) :
      Laid (.fixedArray item size) (.list vs) out
  | tuple {fields : List (String × Ty)} {vs : List Value} {es : List (List UInt8)}
      {out : List UInt8} (hfields : LaidAll (fields.map Prod.snd) vs es)
      (hout : IsSequence (fields.map Prod.snd) es out) : Laid (.tuple fields) (.list vs) out

/-- Bytes are the encodings of values of types, one by one. -/
inductive LaidAll : List Ty → List Value → List (List UInt8) → Prop
  | nil : LaidAll [] [] []
  | cons {ty : Ty} {tys : List Ty} {v : Value} {vs : List Value} {e : List UInt8}
      {es : List (List UInt8)} (h : Laid ty v e) (hrest : LaidAll tys vs es) :
      LaidAll (ty :: tys) (v :: vs) (e :: es)

end

end Value

/-! ## Words -/

theorem isWord_word (n : Nat) : IsWord n (word n) where
  length_eq := length_word n
  number_eq := number_digits 32 n

lemma isWord_intWord (n : Nat) : IsWord n (intWord n) where
  length_eq := length_intWord n
  number_eq := by
    have hmod : ((n : Int) % (Nat.pow 2 256 : Nat)).toNat = n % 2 ^ 256 := by
      rw [← Int.natCast_mod, Int.toNat_natCast]
      rfl
    rw [intWord, hmod, (isWord_word _).number_eq, Nat.mod_mod]

lemma signed_number_intWord {n : Int} (hlo : -2 ^ 255 ≤ n) (hhi : n < 2 ^ 255) :
    signed (number (intWord n)) = n := by
  have hread := signed_append hlo hhi []
  rw [List.append_nil, number?, if_pos (by simp), List.take_of_length_le (by simp)] at hread
  exact Option.some.inj hread

lemma length_filled (bs : List UInt8) : (filled bs).length = paddedSize bs.length := by
  rw [← padRight_eq_filled, length_padRight]

lemma dvd_length_filled (bs : List UInt8) : 32 ∣ (filled bs).length := by
  rw [length_filled]
  exact Nat.dvd_mul_left 32 _

/-- What is one word long is made of whole words. -/
lemma dvd_of_eq_word {n : Nat} {P : Prop} (h : n = 32) : 32 ∣ n ∧ (P → n = 32) :=
  ⟨h ▸ Nat.dvd_refl 32,fun _ => h⟩

/-! ## Sequences -/

lemma dynamicOnes_cons (ty : Ty) (tys : List Ty) (e : List UInt8) (es : List (List UInt8)) :
    dynamicOnes (ty :: tys) (e :: es) =
      (if ty.isDynamic then [e] else []) ++ dynamicOnes tys es := by
  cases h : ty.isDynamic <;> simp [dynamicOnes, h]

/-- The dynamic members are those before a position and those from it on. -/
lemma dynamicOnes_append (tys : List Ty) (es : List (List UInt8)) (i : Nat) :
    dynamicOnes tys es = dynamicOnes (tys.take i) (es.take i) ++
      dynamicOnes (tys.drop i) (es.drop i) := by
  induction i generalizing tys es with
  | zero => simp [dynamicOnes]
  | succ i ih =>
    cases tys with
    | nil => simp [dynamicOnes]
    | cons ty tys =>
      cases es with
      | nil => simp [dynamicOnes]
      | cons e es =>
        simp only [List.take_succ_cons, List.drop_succ_cons, dynamicOnes_cons, List.append_assoc]
        rw [← ih]

lemma dynamicOnes_eq_nil {tys : List Ty} {es : List (List UInt8)}
    (h : ∀ ty ∈ tys, ty.isDynamic = false) : dynamicOnes tys es = [] := by
  induction tys generalizing es with
  | nil => rfl
  | cons ty tys ih =>
    obtain ⟨hty,htys⟩ := List.forall_mem_cons.mp h
    cases es with
    | nil => rfl
    | cons e es => simp [dynamicOnes_cons, hty, ih htys]

lemma subset_of_dynamicOnes (tys : List Ty) (es : List (List UInt8)) : dynamicOnes tys es ⊆ es := by
  intro e he
  obtain ⟨p,hp,rfl⟩ := List.mem_map.mp he
  exact (List.of_mem_zip (List.mem_of_mem_filter hp)).2

namespace IsSequence

variable {tys : List Ty} {es : List (List UInt8)} {out : List UInt8}

/-- The heads have the sizes that the types give, and the dynamic members follow. -/
lemma exists_split (h : IsSequence tys es out) (hcount : es.length = tys.length) :
    ∃ front : List UInt8, out = front ++ (dynamicOnes tys es).flatten ∧
      front.length = (tys.map Ty.headSize).sum := by
  obtain ⟨heads,hout,hlen,hheads⟩ := h
  refine ⟨heads.flatten,hout,?_⟩
  have hsizes : heads.map List.length = tys.map Ty.headSize := by
    apply List.ext_getElem (by simp [hlen])
    intro i hi htys
    simp only [List.length_map] at hi htys
    simp only [List.getElem_map]
    exact (hheads i _ _ _ (List.getElem?_eq_getElem htys)
      (List.getElem?_eq_getElem (hcount ▸ htys)) (List.getElem?_eq_getElem hi)).length_eq
  rw [List.length_flatten, hsizes]

lemma length_eq (h : IsSequence tys es out) (hcount : es.length = tys.length) :
    out.length = (tys.map Ty.headSize).sum + (dynamicOnes tys es).flatten.length := by
  obtain ⟨front,rfl,hfront⟩ := h.exists_split hcount
  rw [List.length_append, hfront]

/-- A dynamic member stands where its offset says. -/
theorem prefix_drop_offsetOf (h : IsSequence tys es out) (hcount : es.length = tys.length) {i : Nat}
    {ty : Ty} {e : List UInt8} (hty : tys[i]? = some ty) (he : es[i]? = some e)
    (hdyn : ty.isDynamic = true) : e <+: out.drop (offsetOf tys es i) := by
  obtain ⟨front,rfl,hfront⟩ := h.exists_split hcount
  obtain ⟨hi,rfl⟩ := List.getElem?_eq_some_iff.mp hty
  obtain ⟨hi',rfl⟩ := List.getElem?_eq_some_iff.mp he
  have hfrom : dynamicOnes (tys.drop i) (es.drop i) =
      es[i] :: dynamicOnes (tys.drop (i + 1)) (es.drop (i + 1)) := by
    rw [List.drop_eq_getElem_cons hi, List.drop_eq_getElem_cons hi', dynamicOnes_cons, if_pos hdyn]
    rfl
  rw [offsetOf, ← hfront, List.drop_length_add_append, dynamicOnes_append tys es i, hfrom,
    List.flatten_append, List.drop_left, List.flatten_cons]
  exact List.prefix_append _ _

/-- The last dynamic member ends the sequence. -/
theorem suffix_of_getLast? (h : IsSequence tys es out) {e : List UInt8}
    (he : (dynamicOnes tys es).getLast? = some e) : e <:+ out := by
  obtain ⟨heads,rfl,-⟩ := h
  obtain ⟨others,hothers⟩ := List.getLast?_eq_some_iff.mp he
  rw [hothers]
  simp only [List.flatten_append, List.flatten_singleton, ← List.append_assoc]
  exact List.suffix_append _ _

end IsSequence

namespace Value

/-- The heads of a sequence, if static members are as long as their types say. -/
lemma exists_heads {tys : List Ty} {vs : List Value}
    (hlength : ∀ p ∈ tys.zip vs, p.1.isDynamic = false → (encode p.1 p.2).length = p.1.headSize)
    (hcount : vs.length = tys.length) (offset : Nat) : ∃ heads : List (List UInt8),
    Part.heads offset (List.zipWith part tys vs) = heads.flatten ∧ heads.length = tys.length ∧
      ∀ i ty e head, tys[i]? = some ty → (List.zipWith encode tys vs)[i]? = some e →
        heads[i]? = some head → IsHead ty e (offset + (dynamicOnes (tys.take i)
          ((List.zipWith encode tys vs).take i)).flatten.length) head := by
  induction tys generalizing vs offset with
  | nil => exact ⟨[],by simp [Part.heads]⟩
  | cons ty tys ih =>
    obtain ⟨v,vs,rfl⟩ := List.exists_cons_of_length_eq_add_one hcount
    obtain ⟨hfirst,hothers⟩ := List.forall_mem_cons.mp hlength
    cases hdyn : ty.isDynamic with
    | false =>
      obtain ⟨heads,hheads,hlen,hall⟩ := ih hothers (Nat.succ.inj hcount) offset
      refine ⟨encode ty v :: heads,?_,by simp [hlen],?_⟩
      · simp [Part.heads, part, hdyn, hheads]
      · rintro (_ | i) ty' e head hty he hhead
        · cases hty
          cases he
          cases hhead
          exact ⟨hfirst hdyn,fun _ => rfl,fun h => absurd h (by simp [hdyn])⟩
        · simpa [dynamicOnes_cons, hdyn] using hall i ty' e head hty he hhead
    | true =>
      obtain ⟨heads,hheads,hlen,hall⟩ :=
        ih hothers (Nat.succ.inj hcount) (offset + (encode ty v).length)
      refine ⟨word offset :: heads,?_,by simp [hlen],?_⟩
      · simp [Part.heads, part, hdyn, hheads]
      · rintro (_ | i) ty' e head hty he hhead
        · cases hty
          cases hhead
          refine ⟨by simp [Ty.headSize_of_isDynamic hdyn],fun h => absurd h (by simp [hdyn]),?_⟩
          intro _
          simpa [dynamicOnes] using isWord_word offset
        · simpa [dynamicOnes_cons, hdyn, Nat.add_assoc] using hall i ty' e head hty he hhead

lemma tails_eq_flatten {tys : List Ty} {vs : List Value} :
    Part.tails (List.zipWith part tys vs) =
      (dynamicOnes tys (List.zipWith encode tys vs)).flatten := by
  induction tys generalizing vs with
  | nil => rfl
  | cons ty tys ih =>
    cases vs with
    | nil => rfl
    | cons v vs =>
      rw [List.zipWith_cons_cons, List.zipWith_cons_cons, Part.tails_cons, dynamicOnes_cons,
        List.flatten_append, ih, part]
      cases ty.isDynamic <;> simp

theorem isSequence_encodeSequence {tys : List Ty} {vs : List Value}
    (hlength : ∀ p ∈ tys.zip vs, p.1.isDynamic = false → (encode p.1 p.2).length = p.1.headSize)
    (hcount : vs.length = tys.length) :
    IsSequence tys (List.zipWith encode tys vs) (encodeSequence tys vs) := by
  obtain ⟨heads,hheads,hlen,hall⟩ := exists_heads hlength hcount (tys.map Ty.headSize).sum
  refine ⟨heads,?_,hlen,hall⟩
  rw [encodeSequence_eq, Part.join, headLength_parts hcount, hheads, tails_eq_flatten]

end Value

/-! ## Lengths -/

/-- Heads are whole words. -/
theorem Ty.dvd_headSize (ty : Ty) : 32 ∣ ty.headSize := by
  induction ty using Ty.nested_induction with
  | fixedArray item size ih =>
    rw [headSize]
    split
    · exact Nat.dvd_refl 32
    · exact Nat.dvd_mul_right_of_dvd ih size
  | tuple fields ih =>
    rw [headSize, headSizes_eq_sum]
    split
    · exact Nat.dvd_refl 32
    · apply List.dvd_sum
      simpa using fun size name ty hmem hsize => hsize ▸ ih (name, ty) hmem
  | _ => exact Nat.dvd_refl 32

namespace Value

variable {tys : List Ty} {vs : List Value} {es : List (List UInt8)}

lemma LaidAll.length_eq (h : LaidAll tys vs es) :
    vs.length = tys.length ∧ es.length = tys.length := by
  induction tys generalizing vs es with
  | nil =>
    cases h
    exact ⟨rfl,rfl⟩
  | cons ty tys ih =>
    cases h with
    | cons _ hrest =>
      obtain ⟨hvs,hes⟩ := ih hrest
      simp [hvs, hes]

lemma LaidAll.exists_of_mem (h : LaidAll tys vs es) {e : List UInt8} (he : e ∈ es) :
    ∃ ty ∈ tys, ∃ v, Laid ty v e := by
  induction tys generalizing vs es with
  | nil =>
    cases h
    cases he
  | cons ty tys ih =>
    cases h with
    | cons hfirst hrest =>
      rcases List.mem_cons.mp he with rfl | he
      · exact ⟨ty,List.mem_cons_self,_,hfirst⟩
      · obtain ⟨other,hmem,v,hv⟩ := ih hrest he
        exact ⟨other,List.mem_cons_of_mem _ hmem,v,hv⟩

/-- Sequences of whole words are whole words. -/
lemma dvd_length_sequence {out : List UInt8} (hall : LaidAll tys vs es)
    (hout : IsSequence tys es out) (hdvd : ∀ ty ∈ tys, ∀ v e, Laid ty v e → 32 ∣ e.length) :
    32 ∣ out.length := by
  rw [hout.length_eq hall.length_eq.2, List.length_flatten]
  apply Nat.dvd_add
  · exact List.dvd_sum (List.forall_mem_map.mpr fun ty _ => ty.dvd_headSize)
  · refine List.dvd_sum (List.forall_mem_map.mpr fun e he => ?_)
    obtain ⟨ty,hty,v,hv⟩ := hall.exists_of_mem (subset_of_dynamicOnes tys es he)
    exact hdvd ty hty v e hv

lemma length_static_sequence {out : List UInt8} (hall : LaidAll tys vs es)
    (hout : IsSequence tys es out) (hstatic : ∀ ty ∈ tys, ty.isDynamic = false) :
    out.length = (tys.map Ty.headSize).sum := by
  rw [hout.length_eq hall.length_eq.2, dynamicOnes_eq_nil hstatic]
  rfl

/-- An encoding is made of whole words, and one of a static type fills its head. -/
theorem length_of_laid {ty : Ty} (hty : ty.WellFormed) {v : Value} {e : List UInt8}
    (h : Laid ty v e) : 32 ∣ e.length ∧ (ty.isDynamic = false → e.length = ty.headSize) := by
  induction ty using Ty.nested_induction generalizing v e with
  | address =>
    cases h with
    | address hsize => exact dvd_of_eq_word (by simp [hsize])
  | bool =>
    cases h with
    | bool hword => exact dvd_of_eq_word hword.length_eq
  | uint bits =>
    cases h with
    | uint _ hword => exact dvd_of_eq_word hword.length_eq
  | int bits =>
    cases h with
    | int hlength => exact dvd_of_eq_word hlength
  | fixedBytes size =>
    cases h with
    | fixedBytes hsize =>
      obtain ⟨hpos,hle⟩ := hty
      apply dvd_of_eq_word
      rw [length_filled, paddedSize]
      omega
  | bytes =>
    cases h with
    | @bytes bs w hword =>
      refine ⟨?_,by simp [Ty.isDynamic]⟩
      rw [List.length_append, hword.length_eq]
      exact Nat.dvd_add (Nat.dvd_refl 32) (dvd_length_filled bs)
  | string =>
    cases h with
    | @string s w hword =>
      refine ⟨?_,by simp [Ty.isDynamic]⟩
      rw [List.length_append, hword.length_eq]
      exact Nat.dvd_add (Nat.dvd_refl 32) (dvd_length_filled _)
  | array item ih =>
    cases h with
    | array hword hitems hout =>
      refine ⟨?_,by simp [Ty.isDynamic]⟩
      rw [List.length_append, hword.length_eq]
      refine Nat.dvd_add (Nat.dvd_refl 32) (dvd_length_sequence hitems hout ?_)
      exact List.forall_mem_replicate.mpr (.inr fun _ _ he => (ih hty he).1)
  | fixedArray item size ih =>
    cases h with
    | fixedArray hitems hout =>
      refine ⟨dvd_length_sequence hitems hout ?_,?_⟩
      · exact List.forall_mem_replicate.mpr (.inr fun _ _ he => (ih hty he).1)
      · intro hstatic
        have hitem : item.isDynamic = false := hstatic
        rw [length_static_sequence hitems hout (List.forall_mem_replicate.mpr (.inr hitem)),
          Ty.headSize, if_neg (by simp [hitem])]
        simp [Nat.mul_comm]
  | tuple fields ih =>
    cases h with
    | tuple hfields hout =>
      have hwell := (Ty.fieldsWellFormed_iff fields).mp hty
      refine ⟨dvd_length_sequence hfields hout ?_,?_⟩
      · exact List.forall_mem_map.mpr fun f hf _ _ he => (ih f hf (hwell f hf) he).1
      · intro hstatic
        have hnone : Ty.anyDynamic fields = false := hstatic
        rw [length_static_sequence hfields hout (Ty.anyDynamic_eq_false_iff.mp hnone), Ty.headSize,
          if_neg (by simp [hnone]), Ty.headSizes_eq_sum]

/-! ## Encodings -/

lemma isSequence_of_laidAll (hwell : ∀ ty ∈ tys, ty.WellFormed)
    (h : LaidAll tys vs (List.zipWith encode tys vs)) :
    IsSequence tys (List.zipWith encode tys vs) (encodeSequence tys vs) := by
  apply isSequence_encodeSequence _ h.length_eq.1
  induction tys generalizing vs with
  | nil => simp
  | cons ty tys ih =>
    obtain ⟨hty,htys⟩ := List.forall_mem_cons.mp hwell
    cases vs with
    | nil => simp
    | cons v vs =>
      cases h with
      | cons hfirst hrest =>
        exact List.forall_mem_cons.mpr ⟨(length_of_laid hty hfirst).2,ih htys hrest⟩

lemma laidAll_of_denoteAll {r : Radix} {js : List Json}
    (hlaid : ∀ ty ∈ tys, ∀ j v, Denotes ty r j v → Laid ty v (encode ty v))
    (h : DenoteAll tys r js vs) : LaidAll tys vs (List.zipWith encode tys vs) := by
  induction tys generalizing js vs with
  | nil =>
    cases h
    exact .nil
  | cons ty tys ih =>
    obtain ⟨hty,htys⟩ := List.forall_mem_cons.mp hlaid
    cases h with
    | cons hfirst hrest => exact .cons (hty _ _ hfirst) (ih htys hrest)

lemma laidAll_replicate {item : Ty} {items : List Json}
    (hlaid : ∀ j v, Denotes item .decimal j v → Laid item v (encode item v))
    (h : DenoteAll (List.replicate items.length item) .decimal items vs) :
    LaidAll (List.replicate vs.length item) vs
      (List.zipWith encode (List.replicate vs.length item) vs) := by
  rw [← (denoteAll_replicate_iff.mp h).length_eq]
  exact laidAll_of_denoteAll (List.forall_mem_replicate.mpr (.inr hlaid)) h

/-- The value that an argument denotes is encoded as it should be. -/
theorem laid_encode {ty : Ty} (hty : ty.WellFormed) {r : Radix} {j : Json} {v : Value}
    (h : Denotes ty r j v) : Laid ty v (encode ty v) := by
  induction ty using Ty.nested_induction generalizing r j v with
  | address =>
    cases h with
    | address _ hsize =>
      rw [encode, padLeft, hsize]
      exact .address hsize
  | bool =>
    cases h with
    | bool => exact .bool (isWord_word _)
  | uint bits =>
    cases h with
    | uint _ hlo hhi =>
      obtain ⟨m,rfl⟩ := Int.eq_ofNat_of_zero_le hlo
      exact .uint (by exact_mod_cast hhi) (isWord_intWord m)
  | int bits =>
    cases h with
    | int _ hlo hhi =>
      obtain ⟨-,hbits,-⟩ := hty
      have hpow : (2 : Int) ^ (bits - 1) ≤ 2 ^ 255 := pow_le_pow_right₀ (by norm_num) (by omega)
      exact .int (length_intWord _) (signed_number_intWord (by omega) (by omega))
  | fixedBytes size =>
    cases h with
    | fixedBytes _ hsize =>
      rw [encode, padRight_eq_filled]
      exact .fixedBytes (by simp; omega)
  | bytes =>
    cases h with
    | bytes =>
      rw [encode, withLength, padRight_eq_filled]
      exact .bytes (isWord_word _)
  | string =>
    cases h with
    | string =>
      rw [encode, withLength, padRight_eq_filled]
      exact .string (isWord_word _)
  | array item ih =>
    cases h with
    | array hitems =>
      have hitem : item.WellFormed := hty
      have hall := laidAll_replicate (fun _ _ => ih hitem) hitems
      have hout := isSequence_of_laidAll (List.forall_mem_replicate.mpr (.inr hitem)) hall
      rw [encode_array]
      exact .array (isWord_word _) hall hout
  | fixedArray item size ih =>
    cases h with
    | fixedArray hsize hitems =>
      have hitem : item.WellFormed := hty
      have hall := laidAll_replicate (fun _ _ => ih hitem) hitems
      have hout := isSequence_of_laidAll (List.forall_mem_replicate.mpr (.inr hitem)) hall
      obtain rfl := (denoteAll_replicate_iff.mp hitems).length_eq.symm.trans hsize
      rw [encode_fixedArray]
      exact .fixedArray hall hout
  | tuple fields ih =>
    cases h with
    | tuple hmembers hfields =>
      have hwell := (Ty.fieldsWellFormed_iff fields).mp hty
      have hall := laidAll_of_denoteAll
        (List.forall_mem_map.mpr fun f hf _ _ => ih f hf (hwell f hf)) hfields
      have hout := isSequence_of_laidAll (List.forall_mem_map.mpr hwell) hall
      rw [encode_tuple]
      exact .tuple hall hout

/-- The layout of an encoded sequence: each member is encoded as it should be, the heads stand first,
each dynamic member stands where its offset says, and nothing comes behind the last one. -/
structure Canonical (tys : List Ty) (vs : List Value) (out : List UInt8) : Prop where
  members : LaidAll tys vs (List.zipWith encode tys vs)
  sequence : IsSequence tys (List.zipWith encode tys vs) out
  aligned : 32 ∣ out.length
  length_eq : out.length = (tys.map Ty.headSize).sum +
    (dynamicOnes tys (List.zipWith encode tys vs)).flatten.length
  offsets : ∀ i ty e, tys[i]? = some ty → (List.zipWith encode tys vs)[i]? = some e →
    ty.isDynamic = true → e <+: out.drop (offsetOf tys (List.zipWith encode tys vs) i)
  ends : ∀ e, (dynamicOnes tys (List.zipWith encode tys vs)).getLast? = some e → e <:+ out

theorem canonical_encodeSequence (hwell : ∀ ty ∈ tys, ty.WellFormed) {r : Radix} {js : List Json}
    (h : DenoteAll tys r js vs) : Canonical tys vs (encodeSequence tys vs) := by
  have hall := laidAll_of_denoteAll (fun ty hty _ _ => laid_encode (hwell ty hty)) h
  have hout := isSequence_of_laidAll hwell hall
  have hcount := hall.length_eq.2
  exact {
    members := hall
    sequence := hout
    aligned := dvd_length_sequence hall hout fun ty hty _ _ he =>
      (length_of_laid (hwell ty hty) he).1
    length_eq := hout.length_eq hcount
    offsets := fun _ _ _ hty he hdyn => hout.prefix_drop_offsetOf hcount hty he hdyn
    ends := fun _ he => hout.suffix_of_getLast? he }

end Value

open Value

lemma wellFormed_of_ofParams {inputs : List Param} {tys : List Ty}
    (h : List.Forall₂ (fun p ty => Ty.ofParam p = .ok ty) inputs tys) :
    ∀ ty ∈ tys, ty.WellFormed := by
  induction h with
  | nil => simp
  | cons hp _ ih => exact List.forall_mem_cons.mpr ⟨Ty.wellFormed_of_ofParam _ hp,ih⟩

/-- Encodings have the canonical layout: those of values, of sequences of them, and of constructor
arguments. The types that are read from parameters are all well-formed. -/
theorem encodings_canonical :
    (∀ ty r j v, ty.WellFormed → ofJson ty r j = .ok v → Laid ty v (encode ty v) ∧
      32 ∣ (encode ty v).length ∧ (ty.isDynamic = false → (encode ty v).length = ty.headSize)) ∧
    (∀ tys r js vs, (∀ ty ∈ tys, ty.WellFormed) → DenoteAll tys r js vs →
      Canonical tys vs (encodeSequence tys vs)) ∧
    ∀ inputs args out, encodeArguments inputs args = .ok out →
      ∃ tys vs, List.Forall₂ (fun p ty => Ty.ofParam p = .ok ty) inputs tys ∧
        DenoteAll tys .hex args vs ∧ Canonical tys vs out := by
  refine ⟨?_,fun tys r js vs hwell h => canonical_encodeSequence hwell h,?_⟩
  · intro ty r j v hty hread
    have hlaid := laid_encode hty (ofJson_eq_ok_iff.mp hread)
    exact ⟨hlaid,length_of_laid hty hlaid⟩
  · intro inputs args out h
    obtain ⟨tys,vs,hparams,hvs,rfl⟩ := denoteAll_of_encodeArguments h
    exact ⟨tys,vs,hparams,hvs,canonical_encodeSequence (wellFormed_of_ofParams hparams) hvs⟩

/-- A text stands behind its offset and a number beside it. -/
theorem encodings_canonical_text :
    (Ty.string.WellFormed ∧ ofJson .string .hex (.str "a") = .ok (.string "a") ∧
      Laid .string (.string "a") (encode .string (.string "a"))) ∧
    ((∀ ty ∈ [Ty.string, .uint 8], ty.WellFormed) ∧
      DenoteAll [.string, .uint 8] .decimal [.str "a", .int 5] [.string "a", .int 5] ∧
      Canonical [.string, .uint 8] [.string "a", .int 5]
        (word 64 ++ word 5 ++ (word 1 ++ filled [97]))) ∧
    ∃ out tys vs, encodeArguments [⟨"s","string",[]⟩, ⟨"n","uint8",[]⟩] [.str "a", .int 5] = .ok out ∧
      Canonical tys vs out := by
  have hwell : ∀ ty ∈ [Ty.string, .uint 8], ty.WellFormed := by
    simp [Ty.WellFormed]
  have hdenote : DenoteAll [.string, .uint 8] .decimal [.str "a", .int 5] [.string "a", .int 5] :=
    .cons .string (.cons (.uint rfl (by decide) (by decide)) .nil)
  have hout : encodeSequence [.string, .uint 8] [.string "a", .int 5] =
      word 64 ++ word 5 ++ (word 1 ++ filled [97]) := by
    decide +kernel
  have hargs : encodeArguments [⟨"s","string",[]⟩, ⟨"n","uint8",[]⟩] [.str "a", .int 5] =
      .ok (word 64 ++ word 5 ++ (word 1 ++ filled [97])) :=
    Result.eq_ok_of_toOption (by decide +kernel)
  refine ⟨⟨trivial,rfl,(encodings_canonical.1 .string .hex (.str "a") _ trivial rfl).1⟩,
    ⟨hwell,hdenote,hout ▸ encodings_canonical.2.1 _ _ _ _ hwell hdenote⟩,?_⟩
  obtain ⟨tys,vs,-,-,hcanonical⟩ := encodings_canonical.2.2 _ _ _ hargs
  exact ⟨_,tys,vs,hargs,hcanonical⟩

end DeployCheck.Abi
