import DeployCheck.Proofs.Abi.Kinds

/-! The kinds that are read as types. They are the canonical texts of types but for blanks around
items, for a base that stands without its width, and for surplus in front of numbers. -/
namespace DeployCheck.Abi.Ty

open Text

/-- The kinds of elementary types, with the surplus in front of the number, if there is one. -/
inductive SpellsElementary : List Char → Ty → List Char → Prop
  | address : SpellsElementary "address".toList .address []
  | bool : SpellsElementary "bool".toList .bool []
  | string : SpellsElementary "string".toList .string []
  | bytes : SpellsElementary "bytes".toList .bytes []
  | bareUint : SpellsElementary "uint".toList (.uint 256) []
  | bareInt : SpellsElementary "int".toList (.int 256) []
  | uint {front : List Char} {bits : Nat} (surplus : Surplus front)
    (width : 8 ≤ bits ∧ bits ≤ 256 ∧ bits % 8 = 0) :
    SpellsElementary ("uint".toList ++ (front ++ Nat.toDigits 10 bits)) (.uint bits) front
  | int {front : List Char} {bits : Nat} (surplus : Surplus front)
    (width : 8 ≤ bits ∧ bits ≤ 256 ∧ bits % 8 = 0) :
    SpellsElementary ("int".toList ++ (front ++ Nat.toDigits 10 bits)) (.int bits) front
  | fixedBytes {front : List Char} {size : Nat} (surplus : Surplus front)
    (count : 1 ≤ size ∧ size ≤ 32) :
    SpellsElementary ("bytes".toList ++ (front ++ Nat.toDigits 10 size)) (.fixedBytes size) front

/-- The end of an array's kind. -/
def bracketed (size : List Char) : List Char := '[' :: size ++ [']']

/-- The kinds of types without tuples, with all the surplus in front of their numbers. Blanks may
stand around a kind, and so around that of an item. -/
inductive Spells : List Char → Ty → List Char → Prop
  | elementary {kind surplus : List Char} {ty : Ty} (h : SpellsElementary kind ty surplus) :
    Spells kind ty surplus
  | between {front kind back surplus : List Char} {ty : Ty}
    (blank_front : ∀ c ∈ front, isBlank c = true) (blank_back : ∀ c ∈ back, isBlank c = true)
    (h : Spells kind ty surplus) : Spells (front ++ kind ++ back) ty surplus
  | array {kind surplus : List Char} {item : Ty} (h : Spells kind item surplus) :
    Spells (kind ++ bracketed []) (.array item) surplus
  | fixedArray {kind surplus front : List Char} {item : Ty} {size : Nat}
    (h : Spells kind item surplus) (more : Surplus front) (word : size < wordBound) :
    Spells (kind ++ bracketed (front ++ Nat.toDigits 10 size)) (.fixedArray item size)
      (surplus ++ front)

/-- A kind without blanks, and with the width that a bare base stands for. -/
def spelledOut (kind : List Char) : List Char :=
  let word := kind.filter (!isBlank ·)
  let base := word.takeWhile (· != '[')
  (if base = "uint".toList ∨ base = "int".toList then base ++ "256".toList else base) ++
    word.dropWhile (· != '[')

/-! ## Elementary types -/

/-- Elementary types are read from their texts and from nothing else. -/
theorem elementary?_eq_some_iff {cs : List Char} {ty : Ty} :
    elementary? cs = some ty ↔ ∃ surplus, SpellsElementary cs ty surplus := by
  constructor
  · intro h
    unfold elementary? at h
    split_ifs at h with haddress hbool hstring hbytes huint hint
    · cases h
      exact haddress ▸ ⟨_,.address⟩
    · cases h
      exact hbool ▸ ⟨_,.bool⟩
    · cases h
      exact hstring ▸ ⟨_,.string⟩
    · cases h
      exact hbytes ▸ ⟨_,.bytes⟩
    · cases h
      exact huint ▸ ⟨_,.bareUint⟩
    · cases h
      exact hint ▸ ⟨_,.bareInt⟩
    · simp only [Option.orElse_eq_orElse, Option.orElse_eq_or, Option.or_eq_some_iff,
        Option.map_eq_some_iff, Option.bind_eq_some_iff, after?_eq_some_iff, width?_eq_some_iff,
        byteCount?_eq_some_iff] at h
      rcases h with ⟨bits,⟨_,rfl,hwidth,front,hfront,rfl⟩,rfl⟩ |
        ⟨-,⟨bits,⟨_,rfl,hwidth,front,hfront,rfl⟩,rfl⟩ |
          ⟨-,size,⟨_,rfl,hcount,front,hfront,rfl⟩,rfl⟩⟩
      · exact ⟨front,.uint hfront hwidth⟩
      · exact ⟨front,.int hfront hwidth⟩
      · exact ⟨front,.fixedBytes hfront hcount⟩
  · rintro ⟨surplus,h⟩
    have hne (n : Nat) : surplus ++ Nat.toDigits 10 n ≠ [] := by simp [Nat.toDigits_ne_nil]
    cases h with
    | uint hfront hwidth =>
      exact elementary?_uint (hne _) (width?_eq_some_iff.mpr ⟨hwidth,_,hfront,rfl⟩)
    | int hfront hwidth =>
      exact elementary?_int (hne _) (width?_eq_some_iff.mpr ⟨hwidth,_,hfront,rfl⟩)
    | fixedBytes hfront hcount =>
      exact elementary?_bytes (hne _) (byteCount?_eq_some_iff.mpr ⟨hcount,_,hfront,rfl⟩)
    | _ => rfl

/-- What stands in texts of elementary types and in sizes. -/
def IsNameChar (c : Char) : Prop := isBlank c = false ∧ c ≠ '[' ∧ c ≠ ']'

/-- What has only such characters is a word without brackets. -/
lemma word_of_isNameChar {cs : List Char} (h : ∀ c ∈ cs, IsNameChar c) :
    IsWord cs ∧ '[' ∉ cs ∧ ']' ∉ cs :=
  ⟨fun c hc => (h c hc).1,fun hopen => (h _ hopen).2.1 rfl,fun hclose => (h _ hclose).2.2 rfl⟩

lemma isNameChar_of_isAlphanum {c : Char} (h : c.isAlphanum = true) : IsNameChar c := by
  refine ⟨not_blank_of_isAlphanum h,?_,?_⟩ <;> rintro rfl <;> exact absurd h (by decide)

lemma isNameChar_number {front : List Char} (h : Surplus front) (n : Nat) :
    ∀ c ∈ front ++ Nat.toDigits 10 n, IsNameChar c := by
  rw [List.forall_mem_append]
  refine ⟨fun c hc => ?_,fun c hc => isNameChar_of_isAlphanum (isAlphanum_of_mem_toDigits c hc)⟩
  rcases h.mem c hc with rfl | rfl <;> simp [IsNameChar] <;> decide

lemma SpellsElementary.isNameChar {kind surplus : List Char} {ty : Ty}
    (h : SpellsElementary kind ty surplus) : ∀ c ∈ kind, IsNameChar c := by
  have hletters (s : String) (hs : s.toList.all Char.isAlphanum = true) :
      ∀ c ∈ s.toList, IsNameChar c :=
    fun c hc => isNameChar_of_isAlphanum (List.all_eq_true.mp hs c hc)
  cases h with
  | uint hfront _ | int hfront _ | fixedBytes hfront _ =>
    exact List.forall_mem_append.mpr ⟨hletters _ (by decide),isNameChar_number hfront _⟩
  | _ => exact hletters _ (by decide)

/-! ## Reading -/

lemma ofBase_of_spells {kind surplus : List Char} {ty : Ty} {components : List Param}
    (h : SpellsElementary kind ty surplus) : ofBase kind components = .ok ty := by
  have hread := elementary?_eq_some_iff.mpr ⟨_,h⟩
  have htuple : kind ≠ "tuple".toList := by
    rintro rfl
    cases hread
  rw [ofBase, if_neg htuple, hread]

/-- A kind with brackets is read as an array of the type that is read from what is in front. -/
lemma ofParam_bracketed {name : String} {components : List Param} {kind size : List Char}
    {item : Ty} (hsize : ∀ c ∈ size, IsNameChar c)
    (h : ofParam ⟨name, String.ofList kind, components⟩ = .ok item) :
    ofParam ⟨name, String.ofList (kind ++ bracketed size), components⟩ =
      item.wrap (stripped (String.ofList (kind ++ bracketed size)), size) := by
  have hkind : String.ofList (kind ++ bracketed size) =
      String.ofList kind ++ "[" ++ String.ofList size ++ "]" := by
    rw [← String.toList_inj]
    simp [bracketed]
  have hchars : ∀ c ∈ (String.ofList size).toList, IsNameChar c := by
    rwa [String.toList_ofList]
  obtain ⟨hword,hopen,-⟩ := word_of_isNameChar hchars
  rw [hkind, ofParam_suffix hword hopen, h, Result.ok_bind, String.toList_ofList]

/-- A kind is read as the type that it spells. -/
theorem ofParam_of_spells {kind surplus : List Char} {ty : Ty} (name : String)
    (components : List Param) (h : Spells kind ty surplus) :
    ofParam ⟨name, String.ofList kind, components⟩ = .ok ty ∧ ty.TupleFree := by
  induction h with
  | @elementary kind _ _ h =>
    have hchars : ∀ c ∈ (String.ofList kind).toList, IsNameChar c := by
      rw [String.toList_ofList]
      exact h.isNameChar
    obtain ⟨hword,-,hclose⟩ := word_of_isNameChar hchars
    rw [ofParam_of_isWord hword hclose, String.toList_ofList, ofBase_of_spells h]
    exact ⟨rfl,by cases h <;> trivial⟩
  | between hfront hback _ ih =>
    refine ⟨(ofParam_congr ?_).trans ih.1,ih.2⟩
    rw [stripped, stripped, String.toList_ofList, String.toList_ofList, trim_between hfront hback]
  | array _ ih =>
    rw [ofParam_bracketed (List.forall_mem_nil _) ih.1]
    exact ⟨rfl,ih.2⟩
  | fixedArray _ hfront hword ih =>
    rw [ofParam_bracketed (isNameChar_number hfront _) ih.1,
      wrap_of_natBelow (natBelow_eq_some_iff.mpr ⟨hword,_,hfront,rfl⟩)]
    exact ⟨rfl,ih.2⟩

/-- What reading a kind without components comes to. -/
inductive Reading (kind : List Char) : Except EncodeError Ty → Prop
  | spelled {ty : Ty} {surplus : List Char} (h : Spells kind ty surplus) : Reading kind (.ok ty)
  | tuples {ty : Ty} (h : ¬ty.TupleFree) : Reading kind (.ok ty)
  | unknown (text : String) : Reading kind (.error (.unknownType text))

lemma Reading.between {front kind back : List Char} {result : Except EncodeError Ty}
    (hfront : ∀ c ∈ front, isBlank c = true) (hback : ∀ c ∈ back, isBlank c = true)
    (h : Reading kind result) : Reading (front ++ kind ++ back) result := by
  cases h with
  | spelled h => exact .spelled (.between hfront hback h)
  | tuples h => exact .tuples h
  | unknown text => exact .unknown text

/-- The kind of an array is read as that of its item was. -/
lemma Reading.wrap {kind size : List Char} {result : Except EncodeError Ty}
    (h : Reading kind result) (text : String) :
    Reading (kind ++ bracketed size) (result >>= fun item => item.wrap (text, size)) := by
  have hitem (item : Ty) : item.wrap (text, size) = .error (.unknownType text) ∨
      size = [] ∧ item.wrap (text, size) = .ok (.array item) ∨
      ∃ n front, n < wordBound ∧ Surplus front ∧ size = front ++ Nat.toDigits 10 n ∧
        item.wrap (text, size) = .ok (.fixedArray item n) := by
    cases size with
    | nil => exact .inr (.inl ⟨rfl,rfl⟩)
    | cons c cs =>
      cases hn : natBelow 10 wordBound (c :: cs) with
      | none => exact .inl (by simp [Ty.wrap, hn])
      | some n =>
        obtain ⟨hword,front,hfront,hsize⟩ := natBelow_eq_some_iff.mp hn
        exact .inr (.inr ⟨n,front,hword,hfront,hsize,wrap_of_natBelow hn⟩)
  cases h with
  | unknown other => exact .unknown other
  | @spelled item _ h =>
    rw [Result.ok_bind]
    obtain hwrap | ⟨rfl,hwrap⟩ | ⟨n,front,hword,hfront,rfl,hwrap⟩ := hitem item
    · exact hwrap ▸ .unknown text
    · exact hwrap ▸ .spelled (.array h)
    · exact hwrap ▸ .spelled (.fixedArray h hfront hword)
  | @tuples item h =>
    rw [Result.ok_bind]
    obtain hwrap | ⟨rfl,hwrap⟩ | ⟨n,front,hword,hfront,rfl,hwrap⟩ := hitem item
    · exact hwrap ▸ .unknown text
    · exact hwrap ▸ .tuples h
    · exact hwrap ▸ .tuples h

lemma reading_ofBase (kind : List Char) : Reading kind (ofBase kind []) := by
  unfold ofBase
  split
  · exact .tuples id
  · split
    · next hread =>
      obtain ⟨_,h⟩ := elementary?_eq_some_iff.mp hread
      exact .spelled (.elementary h)
    · exact .unknown _

/-- Every kind spells a type, holds a tuple or names no type. -/
theorem reading_ofParam (name kind : String) : Reading kind.toList (ofParam ⟨name, kind, []⟩) := by
  induction hn : kind.toList.length using Nat.strongRecOn generalizing kind with
  | ind n ih =>
    obtain ⟨front,back,hfront,hback,hkind⟩ := exists_blanks_trim kind.toList
    rw [hkind]
    refine .between hfront hback ?_
    cases h : lastBrackets? (trim kind.toList).reverse with
    | some p =>
      obtain ⟨element,size⟩ := p
      rw [ofParam_of_brackets h]
      obtain ⟨hcut,-⟩ := lastBrackets?_eq_some_iff.mp ((List.reverse_reverse element).symm ▸ h)
      have hlength : element.length < n := by
        have := length_of_lastBrackets? h
        have := length_trim_le kind.toList
        rw [List.length_reverse] at *
        omega
      have hitem := ih _ hlength (String.ofList element.reverse) (by simp)
      rw [String.toList_ofList] at hitem
      rw [hcut, List.append_assoc]
      exact hitem.wrap _
    | none =>
      rw [ofParam_of_no_brackets h]
      split
      · exact .unknown _
      · exact reading_ofBase _

/-! ## Spelling out -/

lemma filter_word {cs : List Char} (h : IsWord cs) : cs.filter (!isBlank ·) = cs :=
  List.filter_eq_self.mpr fun c hc => by rw [h c hc, Bool.not_false]

lemma spelledOut_between {front kind back : List Char} (hfront : ∀ c ∈ front, isBlank c = true)
    (hback : ∀ c ∈ back, isBlank c = true) :
    spelledOut (front ++ kind ++ back) = spelledOut kind := by
  have hnone {cs : List Char} (h : ∀ c ∈ cs, isBlank c = true) : cs.filter (!isBlank ·) = [] := by
    simpa [List.filter_eq_nil_iff] using h
  simp only [spelledOut, List.filter_append, hnone hfront, hnone hback, List.nil_append,
    List.append_nil]

/-- A bracket behind a text does not change the base in it. -/
lemma base_append (word rest : List Char) :
    (word ++ '[' :: rest).takeWhile (· != '[') = word.takeWhile (· != '[') ∧
      (word ++ '[' :: rest).dropWhile (· != '[') = word.dropWhile (· != '[') ++ '[' :: rest := by
  induction word with
  | nil => simp
  | cons c word ih => by_cases hc : c = '[' <;> simp [hc, ih]

lemma spelledOut_bracketed (kind : List Char) {size : List Char} (h : IsWord size) :
    spelledOut (kind ++ bracketed size) = spelledOut kind ++ bracketed size := by
  have hend : IsWord (bracketed size) := by
    simp only [IsWord, bracketed, List.forall_mem_append, List.forall_mem_cons, List.cons_append]
    exact ⟨by decide,h,by decide,List.forall_mem_nil _⟩
  obtain ⟨hbase,hrest⟩ := base_append (kind.filter (!isBlank ·)) (size ++ [']'])
  simp only [spelledOut]
  rw [List.filter_append, filter_word hend, bracketed, List.cons_append, hbase, hrest,
    List.append_assoc]

lemma spelledOut_of_isNameChar {kind : List Char} (h : ∀ c ∈ kind, IsNameChar c) :
    spelledOut kind =
      if kind = "uint".toList ∨ kind = "int".toList then kind ++ "256".toList else kind := by
  have hopen : ∀ c ∈ kind, (c != '[') = true := fun c hc => by simpa using (h c hc).2.1
  simp only [spelledOut]
  rw [filter_word (word_of_isNameChar h).1, List.takeWhile_eq_self_iff.mpr hopen,
    List.dropWhile_eq_nil_iff.mpr hopen, List.append_nil]

/-- A text holds a canonical one in order, and is longer by the surplus. -/
structure Widens (canonical surplus spelled : List Char) : Prop where
  sublist : canonical.Sublist spelled
  length_eq : spelled.length = canonical.length + surplus.length

lemma Widens.refl (text : List Char) : Widens text [] text := ⟨.refl _,rfl⟩

lemma Widens.append {a b c d e f : List Char} (h : Widens a b c) (hmore : Widens d e f) :
    Widens (a ++ d) (b ++ e) (c ++ f) where
  sublist := h.sublist.append hmore.sublist
  length_eq := by
    simp only [List.length_append, h.length_eq, hmore.length_eq]
    omega

lemma Widens.front (front digits : List Char) : Widens digits front (front ++ digits) where
  sublist := List.sublist_append_right _ _
  length_eq := by rw [List.length_append, Nat.add_comm]

/-- A base with a number is spelled out as it is. -/
lemma widens_number {base front : List Char} {n : Nat}
    (hchars : ∀ c ∈ base ++ (front ++ Nat.toDigits 10 n), IsNameChar c)
    (hbase : base = "uint".toList ∨ base = "int".toList ∨ base = "bytes".toList) :
    Widens (base ++ Nat.toDigits 10 n) front
      (spelledOut (base ++ (front ++ Nat.toDigits 10 n))) := by
  have hne : front ++ Nat.toDigits 10 n ≠ [] := by simp [Nat.toDigits_ne_nil]
  rw [spelledOut_of_isNameChar hchars, if_neg]
  · exact (Widens.refl base).append (.front front _)
  · generalize front ++ Nat.toDigits 10 n = ds at hne
    obtain ⟨d,ds,rfl⟩ := List.exists_cons_of_ne_nil hne
    rcases hbase with rfl | rfl | rfl <;> simp

lemma widens_elementary {kind surplus : List Char} {ty : Ty}
    (h : SpellsElementary kind ty surplus) : Widens ty.text.toList surplus (spelledOut kind) := by
  have hchars := h.isNameChar
  cases h with
  | uint _ _ => simpa [text] using widens_number hchars (.inl rfl)
  | int _ _ => simpa [text] using widens_number hchars (.inr (.inl rfl))
  | fixedBytes _ _ => simpa [text] using widens_number hchars (.inr (.inr rfl))
  | _ => exact ⟨by decide,by decide⟩

/-- The canonical text is a kind, spelled out, without its surplus. -/
theorem widens_spelledOut {kind surplus : List Char} {ty : Ty} (h : Spells kind ty surplus) :
    Widens ty.text.toList surplus (spelledOut kind) := by
  induction h with
  | elementary h => exact widens_elementary h
  | between hfront hback _ ih => rwa [spelledOut_between hfront hback]
  | array _ ih =>
    rw [spelledOut_bracketed _ (by decide)]
    simpa [text, bracketed] using ih.append (.refl _)
  | @fixedArray _ _ front _ size _ hfront _ ih =>
    have hnumber : Widens (Nat.toDigits 10 size) front _ := .front front _
    have hsize := ((Widens.refl ['[']).append hnumber).append (.refl [']'])
    rw [spelledOut_bracketed _ (word_of_isNameChar (isNameChar_number hfront size)).1]
    simpa [text, bracketed] using ih.append hsize

/-- Exactly the kinds that spell a type without tuples are read as one. A kind that spells a type is
its canonical text, once it is spelled out, exactly if no number in it has surplus in front. A kind
that is not read as a type is refused as unknown. -/
theorem parse_eq_ok_iff_spells (kind : String) (ty : Ty) :
    (parse kind [] = .ok ty ∧ ty.TupleFree ↔ ∃ surplus, Spells kind.toList ty surplus) ∧
    (∀ surplus, Spells kind.toList ty surplus →
      (ty.text.toList = spelledOut kind.toList ↔ surplus = [])) ∧
    ((∃ read, parse kind [] = .ok read) ∨ ∃ text, parse kind [] = .error (.unknownType text)) := by
  have hreading : Reading kind.toList (parse kind []) := reading_ofParam "" kind
  refine ⟨⟨?_,?_⟩,fun surplus h => ?_,?_⟩
  · rintro ⟨hok,hfree⟩
    rw [hok] at hreading
    cases hreading with
    | spelled h => exact ⟨_,h⟩
    | tuples h => exact absurd hfree h
  · rintro ⟨surplus,h⟩
    have hread := ofParam_of_spells "" [] h
    rwa [String.ofList_toList] at hread
  · have hwidens := widens_spelledOut h
    constructor
    · intro heq
      have hlength := hwidens.length_eq
      rw [heq, Nat.left_eq_add, List.length_eq_zero_iff] at hlength
      exact hlength
    · rintro rfl
      exact hwidens.sublist.eq_of_length hwidens.length_eq.symm
  · generalize parse kind [] = result at hreading
    cases hreading with
    | spelled _ | tuples _ => exact .inl ⟨_,rfl⟩
    | unknown text => exact .inr ⟨text,rfl⟩

/-- A bare base with blanks around its items is a kind without surplus. -/
theorem parse_eq_ok_iff_spells_blanks :
    parse " uint [2] []" [] = .ok (.array (.fixedArray (.uint 256) 2)) ∧
      Spells " uint [2] []".toList (.array (.fixedArray (.uint 256) 2)) [] := by
  have hread : parse " uint [2] []" [] = .ok (.array (.fixedArray (.uint 256) 2)) := by
    with_unfolding_all rfl
  obtain ⟨hspells,hexact,-⟩ :=
    parse_eq_ok_iff_spells " uint [2] []" (.array (.fixedArray (.uint 256) 2))
  obtain ⟨surplus,h⟩ := hspells.mp ⟨hread,trivial⟩
  obtain rfl := (hexact surplus h).mp (by decide +kernel)
  exact ⟨hread,h⟩

/-- A sign in front of a width is passed over. -/
theorem parse_signed_width : ¬∀ (kind : String) (ty : Ty), parse kind [] = .ok ty → ty.TupleFree →
    ty.text.toList = spelledOut kind.toList := by
  intro h
  have hread : parse "uint+8" [] = .ok (.uint 8) := by with_unfolding_all rfl
  exact absurd (h _ _ hread trivial) (by decide +kernel)

end DeployCheck.Abi.Ty
