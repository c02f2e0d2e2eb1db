import DeployCheck.Proofs.Text.Encoded
import DeployCheck.Text.Blob

/-! Texts and their bytes. The parts of a text in UTF-8 are its characters, so a text is read back
from its bytes, and bytes that are read as a text are those of this text alone. -/
namespace DeployCheck.Blob

/-! ## Parts of texts -/

/-- Behind its first byte a character goes on as that byte says. -/
lemma utf8EncodeChar_cases (c : Char) : ∃ b tail, String.utf8EncodeChar c = b :: tail ∧
    List.Forall₂ (fun range x => isWithin range x = true) (following b) tail := by
  have hvalid : c.val.toNat.isValidChar := c.valid
  unfold String.utf8EncodeChar
  dsimp only
  generalize c.val.toNat = v at hvalid
  unfold Nat.isValidChar at hvalid
  -- one case for each number of bytes
  split_ifs <;>
  · refine ⟨_,_,rfl,?_⟩
    simp only [following, isWithin, UInt8.toNat_ofNat', Bool.and_eq_true, decide_eq_true_eq]
    -- most branches are for other first bytes
    (repeat' split) <;> first | (exfalso; omega) | simp <;> omega

lemma partsFrom_nil (part bytes : List UInt8) :
    partsFrom part [] bytes = part :: parts bytes := by
  cases bytes <;> rfl

lemma partsFrom_append {ranges : List (Nat × Nat)} {tail : List UInt8}
    (h : List.Forall₂ (fun range x => isWithin range x = true) ranges tail)
    (part bytes : List UInt8) :
    partsFrom part ranges (tail ++ bytes) = (part ++ tail) :: parts bytes := by
  induction h generalizing part with
  | nil => rw [List.nil_append, List.append_nil, partsFrom_nil]
  | cons hhead _ ih =>
    rw [List.cons_append, partsFrom, if_pos hhead, ih, List.append_assoc, List.singleton_append]

lemma parts_utf8EncodeChar (c : Char) (bytes : List UInt8) :
    parts (String.utf8EncodeChar c ++ bytes) = String.utf8EncodeChar c :: parts bytes := by
  obtain ⟨b,tail,hc,htail⟩ := utf8EncodeChar_cases c
  rw [hc, List.cons_append, parts, partsFrom_append htail, List.singleton_append]

lemma parts_flatMap (cs : List Char) :
    parts (cs.flatMap String.utf8EncodeChar) = cs.map String.utf8EncodeChar := by
  induction cs with
  | nil => rfl
  | cons c cs ih => rw [List.flatMap_cons, parts_utf8EncodeChar, ih, List.map_cons]

lemma charOf?_utf8EncodeChar (c : Char) : charOf? (String.utf8EncodeChar c) = some c := by
  have h := List.utf8DecodeChar?_utf8Encode_singleton (c := c)
  rwa [List.utf8Encode, List.flatMap_singleton] at h

lemma bytes_ofText (s : String) : (ofText s).bytes = s.toList.flatMap String.utf8EncodeChar :=
  (Text.toList_eq_data _).symm.trans (Text.toList_toUTF8 s)

/-- A text is read back, also where ill-formed parts would be replaced. -/
@[simp] theorem text_ofText (s : String) : (ofText s).text = s := by
  rw [text, bytes_ofText, parts_flatMap, List.map_map]
  simp [Function.comp_def, charOf?_utf8EncodeChar]

@[simp] theorem text?_ofText (s : String) : (ofText s).text? = some s := by
  have hchars : ∀ cs : List Char, (cs.map String.utf8EncodeChar).mapM charOf? = some cs := by
    intro cs
    induction cs with
    | nil => rfl
    | cons c cs ih => simp [charOf?_utf8EncodeChar, ih]
  rw [text?, bytes_ofText, parts_flatMap, hchars, Option.map_some, String.ofList_toList]

/-! ## Parts of bytes -/

/-- A part that is at most as long as its first byte says. -/
def IsPart (part : List UInt8) : Prop :=
  ∃ b tail, part = b :: tail ∧ tail.length ≤ (following b).length

lemma flatten_partsFrom (part : List UInt8) (ranges : List (Nat × Nat)) (bytes : List UInt8) :
    (partsFrom part ranges bytes).flatten = part ++ bytes := by
  induction bytes generalizing part ranges with
  | nil => cases ranges <;> simp [partsFrom]
  | cons b bytes ih =>
    cases ranges with
    | nil => simp [partsFrom, ih]
    | cons range ranges =>
      unfold partsFrom
      split <;> simp [ih]

/-- Nothing is lost between parts. -/
theorem flatten_parts (bytes : List UInt8) : (parts bytes).flatten = bytes := by
  cases bytes with
  | nil => rfl
  | cons b bytes => exact flatten_partsFrom [b] _ bytes

lemma isPart_partsFrom {bytes : List UInt8} (b : UInt8) (tail : List UInt8)
    {ranges : List (Nat × Nat)} (h : tail.length + ranges.length ≤ (following b).length) :
    ∀ part ∈ partsFrom (b :: tail) ranges bytes, IsPart part := by
  have hpart : IsPart (b :: tail) := ⟨b,tail,rfl,by omega⟩
  induction bytes generalizing b tail ranges with
  | nil => cases ranges <;> simpa [partsFrom] using hpart
  | cons next bytes ih =>
    have hrest : ∀ part ∈ partsFrom [next] (following next) bytes, IsPart part :=
      ih next [] (by simp) ⟨next,[],rfl,by simp⟩
    cases ranges with
    | nil => exact List.forall_mem_cons.mpr ⟨hpart,hrest⟩
    | cons range ranges =>
      rw [List.length_cons] at h
      unfold partsFrom
      split
      · have hlength : (tail ++ [next]).length + ranges.length ≤ (following b).length := by
          rw [List.length_append, List.length_singleton]
          omega
        exact ih b (tail ++ [next]) hlength ⟨b,_,rfl,by omega⟩
      · exact List.forall_mem_cons.mpr ⟨hpart,hrest⟩

lemma isPart_parts (bytes : List UInt8) : ∀ part ∈ parts bytes, IsPart part := by
  cases bytes with
  | nil => simp [parts]
  | cons b bytes => exact isPart_partsFrom b [] (by simp)

/-- A part that is read as a character is that character's bytes. -/
lemma utf8EncodeChar_of_charOf? {part : List UInt8} (h : IsPart part) {c : Char}
    (hc : charOf? part = some c) : String.utf8EncodeChar c = part := by
  obtain ⟨n,hlead⟩ : ∃ n, String.utf8EncodeChar c = part.take n := by
    have hbytes := String.toByteArray_utf8EncodeChar_of_utf8DecodeChar?_eq_some hc
    refine ⟨c.utf8Size,?_⟩
    rw [← List.toList_data_toByteArray (l := String.utf8EncodeChar c), hbytes]
    simp
  -- the character begins with the same byte, and is as long as this says
  obtain ⟨b,tail,hb,htail⟩ := utf8EncodeChar_cases c
  obtain ⟨first,more,rfl,hmore⟩ := h
  rw [hb] at hlead ⊢
  have hlength := htail.length_eq
  cases n with
  | zero => cases hlead
  | succ n =>
    rw [List.take_succ_cons, List.cons.injEq] at hlead
    obtain ⟨rfl,rfl⟩ := hlead
    rw [List.take_of_length_le]
    rw [List.length_take] at hlength
    omega

lemma flatMap_of_mapM_charOf? {ps : List (List UInt8)} (h : ∀ part ∈ ps, IsPart part)
    {cs : List Char} (hcs : ps.mapM charOf? = some cs) :
    cs.flatMap String.utf8EncodeChar = ps.flatten := by
  induction ps generalizing cs with
  | nil =>
    obtain rfl : [] = cs := by simpa using hcs
    rfl
  | cons part ps ih =>
    obtain ⟨hpart,hrest⟩ := List.forall_mem_cons.mp h
    obtain ⟨c,hc,later,hlater,rfl⟩ : ∃ c, charOf? part = some c ∧ ∃ later,
        ps.mapM charOf? = some later ∧ c :: later = cs := by
      simpa [Option.bind_eq_some_iff] using hcs
    rw [List.flatMap_cons, List.flatten_cons, utf8EncodeChar_of_charOf? hpart hc, ih hrest hlater]

/-- Bytes are read as the text that they are, and as no other. -/
theorem text?_eq_some_iff {b : Blob} {s : String} : b.text? = some s ↔ b = ofText s := by
  constructor
  · intro h
    obtain ⟨cs,hcs,rfl⟩ := Option.map_eq_some_iff.mp h
    have hbytes := flatMap_of_mapM_charOf? (isPart_parts b.bytes) hcs
    rw [flatten_parts] at hbytes
    have hsame : b.bytes = (ofText (String.ofList cs)).bytes := by
      rw [bytes_ofText, String.toList_ofList, hbytes]
    exact congrArg Blob.mk hsame
  · rintro rfl
    exact text?_ofText s

end DeployCheck.Blob
