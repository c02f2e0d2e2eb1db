import DeployCheck.Proofs.Bytecode.Trimming

/-! Where trimming cuts. The metadata is as long as the last two bytes of the code state, and a
literal is the ASCII text behind the last guard in front of it. Parts that were joined in this form
are taken apart again. -/
namespace DeployCheck.Bytecode

/-- The size that the last two bytes state, these two included. -/
def statedSize (bytes : List UInt8) : Nat :=
  256 * (bytes.getD (bytes.length - 2) 0).toNat + (bytes.getD (bytes.length - 1) 0).toNat + 2

/-- Bytes that state their own size. -/
def IsTrailer (bytes : List UInt8) : Prop := statedSize bytes = bytes.length

instance (bytes : List UInt8) : Decidable (IsTrailer bytes) := by unfold IsTrailer; infer_instance

/-- The longest beginning of code that ends with the guard. -/
structure EndsAtLastGuard (bytes code : List UInt8) : Prop where
  beginning : code <+: bytes
  guarded : guard <:+ code
  longest : ∀ other, other <+: bytes → guard <:+ other → other.length ≤ code.length

/-- Code up to the last guard, with an ASCII text behind it. -/
structure EndsInLiteral (bytes code literal : List UInt8) : Prop where
  joined : code ++ literal = bytes
  atGuard : EndsAtLastGuard bytes code
  nonempty : literal ≠ []
  ascii : ∀ b ∈ literal, b.toNat < 128

/-! ## Metadata -/

lemma two_le_statedSize (bytes : List UInt8) : 2 ≤ statedSize bytes := by
  unfold statedSize
  omega

lemma IsTrailer.two_le {bytes : List UInt8} (h : IsTrailer bytes) : 2 ≤ bytes.length :=
  h ▸ two_le_statedSize bytes

/-- Bytes in front of the last two do not count. -/
lemma statedSize_append (bytes : List UInt8) {trailer : List UInt8} (h : 2 ≤ trailer.length) :
    statedSize (bytes ++ trailer) = statedSize trailer := by
  have hlast (k : Nat) (hk : k ≤ trailer.length) (hpos : 0 < k) :
      (bytes ++ trailer).getD ((bytes ++ trailer).length - k) 0 =
        trailer.getD (trailer.length - k) 0 := by
    have hindex : bytes.length + trailer.length - k - bytes.length = trailer.length - k := by omega
    rw [List.getD_eq_getElem?_getD, List.getD_eq_getElem?_getD, List.length_append,
      List.getElem?_append_right (by omega), hindex]
  rw [statedSize, statedSize, hlast 2 h (by omega), hlast 1 (by omega) (by omega)]

lemma statedSize_concat (bytes : List UInt8) (hi lo : UInt8) :
    statedSize (bytes ++ [hi, lo]) = 256 * hi.toNat + lo.toNat + 2 :=
  statedSize_append bytes (Nat.le_refl 2)

/-- Metadata is found where its stated size fits. -/
theorem metadataLength?_eq (bytes : List UInt8) :
    metadataLength? bytes =
      if statedSize bytes ≤ bytes.length then some (statedSize bytes) else none := by
  unfold metadataLength?
  split
  · next lo hi rest h =>
    obtain rfl : bytes = rest.reverse ++ [hi, lo] := by
      rw [← List.reverse_reverse bytes, h]
      simp
    rw [statedSize_concat]
  · next hshort =>
    rw [if_neg]
    -- no two bytes are there, and a stated size counts its own two
    have hlen : bytes.reverse.length < 2 := by
      match hrev : bytes.reverse with
      | [] => simp
      | [_] => simp
      | lo :: hi :: rest => exact absurd hrev (hshort lo hi rest)
    rw [List.length_reverse] at hlen
    have := two_le_statedSize bytes
    omega

lemma trim_of_fits {bytes : List UInt8} (h : statedSize bytes ≤ bytes.length) :
    trim bytes =
      ⟨(splitLiteral (bytes.take (bytes.length - statedSize bytes))).1,
        (splitLiteral (bytes.take (bytes.length - statedSize bytes))).2,
        bytes.drop (bytes.length - statedSize bytes)⟩ := by
  rw [trim, metadataLength?_eq, if_pos h]

lemma trim_of_not_fits {bytes : List UInt8} (h : bytes.length < statedSize bytes) :
    trim bytes = ⟨bytes,[],[]⟩ := by
  rw [trim, metadataLength?_eq, if_neg (by omega)]

lemma metadata_eq_nil_iff (bytes : List UInt8) :
    (trim bytes).metadata = [] ↔ bytes.length < statedSize bytes := by
  have hsize := two_le_statedSize bytes
  by_cases h : statedSize bytes ≤ bytes.length
  · rw [trim_of_fits h, List.drop_eq_nil_iff]
    omega
  · rw [trim_of_not_fits (by omega)]
    exact iff_of_true rfl (by omega)

/-- A trailer is the metadata of every code in front of it. -/
theorem trim_append_of_isTrailer (bytes : List UInt8) {trailer : List UInt8}
    (h : IsTrailer trailer) :
    trim (bytes ++ trailer) = ⟨(splitLiteral bytes).1,(splitLiteral bytes).2,trailer⟩ := by
  have hsize : statedSize (bytes ++ trailer) = trailer.length := by
    rw [statedSize_append bytes h.two_le, h]
  have hkept : (bytes ++ trailer).length - trailer.length = bytes.length := by simp
  rw [trim_of_fits (by rw [hsize, List.length_append]; omega), hsize, hkept, List.take_left' rfl,
    List.drop_left' rfl]

/-! ## The last guard -/

/-- A beginning that ends with the guard is the guard itself or goes on behind the first byte. -/
lemma guarded_cons {b : UInt8} {rest other : List UInt8} (hother : other <+: b :: rest)
    (hguard : guard <:+ other) :
    other = guard ∨ ∃ tail, other = b :: tail ∧ tail <+: rest ∧ guard <:+ tail := by
  cases other with
  | nil => simp [guard] at hguard
  | cons c tail =>
    obtain ⟨rfl,htail⟩ := List.cons_prefix_cons.mp hother
    rcases List.suffix_cons_iff.mp hguard with heq | hsuffix
    · exact .inl heq.symm
    · exact .inr ⟨tail,rfl,htail,hsuffix⟩

theorem not_guarded_of_splitAtGuard {bytes : List UInt8} (h : splitAtGuard bytes = none)
    {other : List UInt8} (hother : other <+: bytes) : ¬guard <:+ other := by
  intro hguard
  induction bytes generalizing other with
  | nil =>
    obtain rfl := List.prefix_nil.mp hother
    simp [guard] at hguard
  | cons b rest ih =>
    unfold splitAtGuard at h
    split at h
    · cases h
    · next hrest =>
      split at h
      · cases h
      · next hnot =>
        rcases guarded_cons hother hguard with rfl | ⟨tail,-,htail,hsuffix⟩
        · exact hnot (List.isPrefixOf_iff_prefix.mpr hother)
        · exact ih hrest htail hsuffix

/-- The cut is behind the last guard. -/
theorem endsAtLastGuard_of_splitAtGuard {bytes code literal : List UInt8}
    (h : splitAtGuard bytes = some (code,literal)) : EndsAtLastGuard bytes code := by
  obtain ⟨hjoin,hsuffix⟩ := splitAtGuard_eq_some h
  refine ⟨⟨literal,hjoin⟩,hsuffix,?_⟩
  clear hjoin
  intro other hother hguard
  induction bytes generalizing code other with
  | nil => simp [splitAtGuard] at h
  | cons b rest ih =>
    unfold splitAtGuard at h
    split at h
    · next code' literal' hrest =>
      cases h
      have hcode' := (splitAtGuard_eq_some hrest).2
      rcases guarded_cons hother hguard with rfl | ⟨tail,rfl,htail,hsuffix'⟩
      · exact (hcode'.trans (List.suffix_cons _ _)).length_le
      · exact Nat.succ_le_succ (ih hrest hcode' tail htail hsuffix')
    · next hrest =>
      split at h
      · cases h
        rcases guarded_cons hother hguard with rfl | ⟨tail,-,htail,hsuffix'⟩
        · exact Nat.le_refl _
        · exact absurd hsuffix' (not_guarded_of_splitAtGuard hrest htail)
      · cases h

/-- Only one beginning reaches to the last guard. -/
lemma EndsAtLastGuard.unique {bytes code other : List UInt8} (h : EndsAtLastGuard bytes code)
    (hother : EndsAtLastGuard bytes other) : code = other := by
  have hle := hother.longest code h.beginning h.guarded
  have hge := h.longest other hother.beginning hother.guarded
  exact (List.prefix_of_prefix_length_le h.beginning hother.beginning hle).eq_of_length (by omega)

/-- The guard ends in a byte that is not ASCII, so an ASCII text completes no further guard. -/
lemma endsAtLastGuard_append {code literal : List UInt8} (hcode : guard <:+ code)
    (hascii : ∀ b ∈ literal, b.toNat < 128) : EndsAtLastGuard (code ++ literal) code := by
  refine ⟨List.prefix_append _ _,hcode,?_⟩
  intro other hother hguard
  by_contra hlong
  obtain ⟨tail,rfl⟩ := List.prefix_of_prefix_length_le (List.prefix_append code literal) hother
    (by omega)
  have htail : tail <+: literal := (List.prefix_append_right_inj code).mp hother
  have hne : tail ≠ [] := by
    rintro rfl
    simp at hlong
  obtain ⟨lead,hlead⟩ := hguard
  have hlast : tail.getLast? = some 0xfe := by
    rw [← List.getLast?_append_of_ne_nil code hne, ← hlead,
      List.getLast?_append_of_ne_nil lead (by simp [guard])]
    rfl
  have hfe := hascii 0xfe (htail.subset (List.mem_of_getLast? hlast))
  exact absurd hfe (by decide)

/-! ## Literals -/

lemma isAscii_iff (bytes : List UInt8) : isAscii bytes = true ↔ ∀ b ∈ bytes, b.toNat < 128 := by
  simp only [isAscii, List.all_eq_true, decide_eq_true_eq, UInt8.lt_iff_toNat_lt]
  rfl

/-- A literal that is there is split off. -/
lemma splitLiteral_of_endsInLiteral {bytes code literal : List UInt8}
    (h : EndsInLiteral bytes code literal) : splitLiteral bytes = (code,literal) := by
  unfold splitLiteral
  split
  · next code' literal' hsplit =>
    obtain rfl := h.atGuard.unique (endsAtLastGuard_of_splitAtGuard hsplit)
    obtain rfl : literal = literal' :=
      List.append_cancel_left (h.joined.trans (splitAtGuard_eq_some hsplit).1.symm)
    have hascii := (isAscii_iff literal).mpr h.ascii
    simp [h.nonempty, hascii]
  · next hnone =>
    exact absurd h.atGuard.guarded (not_guarded_of_splitAtGuard hnone h.atGuard.beginning)

/-- Only a literal is split off. -/
lemma endsInLiteral_of_splitLiteral {bytes : List UInt8} (h : (splitLiteral bytes).2 ≠ []) :
    EndsInLiteral bytes (splitLiteral bytes).1 (splitLiteral bytes).2 := by
  have hjoin := splitLiteral_append bytes
  unfold splitLiteral at h hjoin ⊢
  split at h
  · next code literal hsplit =>
    simp only [hsplit] at hjoin ⊢
    split_ifs at h hjoin ⊢ with hlit
    · simp only [Bool.and_eq_true, isAscii_iff] at hlit
      exact ⟨hjoin,endsAtLastGuard_of_splitAtGuard hsplit,h,hlit.2⟩
    · simp at h
  · simp at h

theorem splitLiteral_eq_iff {bytes code literal : List UInt8} (hne : literal ≠ []) :
    splitLiteral bytes = (code,literal) ↔ EndsInLiteral bytes code literal := by
  constructor
  · intro h
    have hliteral : (splitLiteral bytes).2 ≠ [] := by rwa [h]
    have hends := endsInLiteral_of_splitLiteral hliteral
    rwa [h] at hends
  · exact splitLiteral_of_endsInLiteral

/-- A literal is split off exactly where the bytes before the metadata end in one. -/
lemma literal_iff_endsInLiteral (bytes : List UInt8) {code literal : List UInt8}
    (hne : literal ≠ []) :
    ((trim bytes).code = code ∧ (trim bytes).literal = literal) ↔
      (trim bytes).metadata ≠ [] ∧ EndsInLiteral (trim bytes).body code literal := by
  rw [Ne, metadata_eq_nil_iff]
  by_cases h : statedSize bytes ≤ bytes.length
  · rw [trim_of_fits h, Trimmed.body, splitLiteral_append, ← splitLiteral_eq_iff hne, Prod.ext_iff]
    simp [h]
  · rw [trim_of_not_fits (by omega)]
    simp [h, Ne.symm hne]

/-- Trimming and joining are inverse. Trimmed parts are the bytes in front of a trailer that states
its size, and a literal with its guard where there is one; such parts are found again in what they
form together. -/
theorem trim_inverse_reassemble :
    (∀ bytes : List UInt8, (trim bytes).reassemble = bytes ∧
      ((trim bytes).metadata = [] ↔ bytes.length < 2 ∨ bytes.length < statedSize bytes) ∧
      ((trim bytes).metadata = [] → (trim bytes).code = bytes) ∧
      ((trim bytes).metadata ≠ [] →
        (trim bytes).metadata = bytes.drop (bytes.length - statedSize bytes)) ∧
      ∀ code literal, literal ≠ [] →
        ((trim bytes).code = code ∧ (trim bytes).literal = literal ↔
          (trim bytes).metadata ≠ [] ∧ EndsInLiteral (trim bytes).body code literal)) ∧
    ∀ code literal metadata : List UInt8, guard <:+ code → literal ≠ [] →
      (∀ b ∈ literal, b.toNat < 128) → IsTrailer metadata →
      trim (code ++ literal ++ metadata) = ⟨code,literal,metadata⟩ := by
  refine ⟨fun bytes => ⟨reassemble_trim bytes,?_,?_,?_,?_⟩,?_⟩
  · have := two_le_statedSize bytes
    rw [metadata_eq_nil_iff]
    omega
  · intro hmeta
    rw [trim_of_not_fits ((metadata_eq_nil_iff bytes).mp hmeta)]
  · intro hmeta
    rw [trim_of_fits (by rw [Ne, metadata_eq_nil_iff] at hmeta; omega)]
  · intro code literal hne
    exact literal_iff_endsInLiteral bytes hne
  · intro code literal metadata hguard hne hascii htrailer
    have hliteral : EndsInLiteral (code ++ literal) code literal :=
      ⟨rfl,endsAtLastGuard_append hguard hascii,hne,hascii⟩
    rw [trim_append_of_isTrailer _ htrailer, splitLiteral_of_endsInLiteral hliteral]

/-- A literal behind the second of two guards, and a guard in the metadata too. -/
theorem trim_inverse_reassemble_guards :
    let code : List UInt8 := [0x5b,0x50,0x56,0xfe,0xff,0x5b,0x50,0x56,0xfe]
    let metadata : List UInt8 := [0x5b,0x50,0x56,0xfe,0,4]
    guard <:+ code ∧ ([0x76,0x31] : List UInt8) ≠ [] ∧
      (∀ b ∈ ([0x76,0x31] : List UInt8), b.toNat < 128) ∧ IsTrailer metadata ∧
      trim (code ++ [0x76,0x31] ++ metadata) = ⟨code,[0x76,0x31],metadata⟩ := by
  intro code metadata
  have hguard : guard <:+ code := ⟨[0x5b,0x50,0x56,0xfe,0xff],rfl⟩
  have hne : ([0x76,0x31] : List UInt8) ≠ [] := by decide
  have hascii : ∀ b ∈ ([0x76,0x31] : List UInt8), b.toNat < 128 := by decide +kernel
  have htrailer : IsTrailer metadata := by decide
  exact ⟨hguard,hne,hascii,htrailer,
    trim_inverse_reassemble.2 code _ metadata hguard hne hascii htrailer⟩

end DeployCheck.Bytecode
