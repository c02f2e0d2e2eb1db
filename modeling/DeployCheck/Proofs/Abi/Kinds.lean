import DeployCheck.Proofs.Abi.Types
import DeployCheck.Proofs.Text.Blanks

/-! Kinds of parameters. A type is read back from the kind and the components that the compiler
writes for it, and a type without tuples from its text alone. -/
namespace DeployCheck.Abi.Ty

open Text

/-- The kind of a parameter, as the compiler writes it. -/
def kind : Ty → String
  | .array item => item.kind ++ "[]"
  | .fixedArray item size => item.kind ++ "[" ++ toString size ++ "]"
  | .tuple _ => "tuple"
  | ty => ty.text

mutual

/-- The components of a parameter: one for each field of a tuple, and those of its item for an
array. -/
def components : Ty → List Param
  | .array item | .fixedArray item _ => item.components
  | .tuple fields => fieldParams fields
  | _ => []

def fieldParams : List (String × Ty) → List Param
  | [] => []
  | (name, ty) :: rest => ⟨name, ty.kind, ty.components⟩ :: fieldParams rest

end

mutual

/-- The sizes of arrays are words. -/
def SizesFit : Ty → Prop
  | .array item => item.SizesFit
  | .fixedArray item size => item.SizesFit ∧ size < wordBound
  | .tuple fields => FieldSizesFit fields
  | _ => True

def FieldSizesFit : List (String × Ty) → Prop
  | [] => True
  | (_, ty) :: rest => ty.SizesFit ∧ FieldSizesFit rest

end

/-- No tuple occurs in the type. -/
def TupleFree : Ty → Prop
  | .array item | .fixedArray item _ => item.TupleFree
  | .tuple _ => False
  | _ => True

/-- A type is neither an array nor a tuple. -/
def IsElementary : Ty → Prop
  | .array _ | .fixedArray _ _ | .tuple _ => False
  | _ => True

/-- Induction over types along their kinds: an array extends the kind of its item. -/
@[elab_as_elim]
theorem kind_induction {motive : Ty → Prop}
    (elementary : ∀ ty, IsElementary ty → motive ty)
    (array : ∀ item, motive item → motive (.array item))
    (fixedArray : ∀ item size, motive item → motive (.fixedArray item size))
    (tuple : ∀ fields, (∀ f ∈ fields, motive f.2) → motive (.tuple fields)) (ty : Ty) :
    motive ty := by
  induction ty using nested_induction with
  | array item ih => exact array item ih
  | fixedArray item size ih => exact fixedArray item size ih
  | tuple fields ih => exact tuple fields ih
  | _ => exact elementary _ trivial

/-! ## Suffixes -/

lemma splitSuffixes_of_brackets {reversed element size : List Char} (outer : List Suffix)
    (h : lastBrackets? (trim reversed) = some (element, size)) :
    splitSuffixes reversed outer =
      splitSuffixes element ((String.ofList (trim reversed).reverse, size) :: outer) := by
  rw [splitSuffixes]
  split
  · next element' size' heq =>
    obtain ⟨rfl,rfl⟩ := Prod.mk.inj (Option.some.inj (heq.symm.trans h))
    rfl
  · next heq => simp [h] at heq

lemma splitSuffixes_of_no_brackets {reversed : List Char} (outer : List Suffix)
    (h : lastBrackets? (trim reversed) = none) :
    splitSuffixes reversed outer =
      if (trim reversed).head? = some ']' then
        .error (.unknownType (String.ofList (trim reversed).reverse))
      else .ok ((trim reversed).reverse, outer) := by
  rw [splitSuffixes]
  split
  · next heq => simp [h] at heq
  · rfl

/-- Outer suffixes are only carried along. -/
lemma splitSuffixes_eq_map (reversed : List Char) (outer : List Suffix) :
    splitSuffixes reversed outer =
      (fun p => (p.1, p.2 ++ outer)) <$> splitSuffixes reversed [] := by
  induction hn : reversed.length using Nat.strongRecOn generalizing reversed outer with
  | ind n ih =>
    cases h : lastBrackets? (trim reversed) with
    | none =>
      rw [splitSuffixes_of_no_brackets outer h, splitSuffixes_of_no_brackets [] h]
      split <;> rfl
    | some p =>
      obtain ⟨element,size⟩ := p
      have hlt : element.length < n := by
        have := length_of_lastBrackets? h
        have := length_trim_le reversed
        omega
      rw [splitSuffixes_of_brackets outer h, splitSuffixes_of_brackets [] h, ih _ hlt _ _ rfl,
        ih _ hlt _ [_] rfl]
      cases splitSuffixes element [] <;> simp [Functor.map, Except.map]

lemma lastBrackets?_suffix (element : List Char) {size : List Char} (hsize : '[' ∉ size) :
    lastBrackets? (element ++ '[' :: size ++ [']']).reverse = some (element.reverse, size) := by
  have hall : ∀ c ∈ size.reverse, (c != '[') = true := by
    intro c hc
    have hne : c ≠ '[' := fun heq => hsize (heq ▸ List.mem_reverse.mp hc)
    simpa using hne
  have hbody : (element ++ '[' :: size ++ [']']).reverse =
      ']' :: (size.reverse ++ '[' :: element.reverse) := by simp
  rw [hbody, lastBrackets?, List.dropWhile_append_of_pos hall, List.takeWhile_append_of_pos hall]
  simp

/-- A text with brackets at its end, taken apart. -/
lemma lastBrackets?_eq_some_iff {cs element size : List Char} :
    lastBrackets? cs.reverse = some (element.reverse, size) ↔
      cs = element ++ '[' :: size ++ [']'] ∧ '[' ∉ size := by
  constructor
  · intro h
    unfold lastBrackets? at h
    split at h
    · next body hbody =>
      split at h
      · next inner hinner =>
        simp only [Option.some.injEq, Prod.mk.injEq] at h
        obtain ⟨rfl,rfl⟩ := h
        have hcut := List.takeWhile_append_dropWhile (p := (· != '[')) (l := body)
        rw [hinner] at hcut
        refine ⟨?_,fun hmem => ?_⟩
        · rw [← List.reverse_inj, hbody]
          simpa using hcut.symm
        · simpa using List.mem_takeWhile_imp (List.mem_reverse.mp hmem)
      · cases h
    · cases h
  · rintro ⟨rfl,hsize⟩
    exact lastBrackets?_suffix element hsize

/-- The type that a kind without suffixes stands for. -/
def ofBase (base : List Char) (components : List Param) : Except EncodeError Ty :=
  if base = "tuple".toList then tuple <$> ofComponents components
  else match elementary? base with
    | some ty => .ok ty
    | none => .error (.unknownType (String.ofList base))

lemma ofParam_eq (name kind : String) (components : List Param) :
    ofParam ⟨name, kind, components⟩ = splitSuffixes kind.toList.reverse [] >>= fun p =>
      ofBase p.1 components >>= fun item => p.2.foldlM wrap item := by
  rw [ofParam]
  refine congrArg _ (funext fun p => ?_)
  obtain ⟨base,suffixes⟩ := p
  by_cases htuple : base = "tuple".toList
  · simp only [ofBase, if_pos htuple]
  · simp only [ofBase, if_neg htuple]
    cases elementary? base <;> rfl

/-- A kind with brackets at its end is that of its item with a suffix. -/
lemma ofParam_of_brackets {name kind : String} {components : List Param} {element size : List Char}
    (h : lastBrackets? (trim kind.toList).reverse = some (element, size)) :
    ofParam ⟨name, kind, components⟩ =
      ofParam ⟨name, String.ofList element.reverse, components⟩ >>= fun item =>
        wrap item (stripped kind, size) := by
  have hsplit := splitSuffixes_of_brackets [] ((trim_reverse kind.toList).symm ▸ h)
  rw [trim_reverse, List.reverse_reverse, ← stripped, splitSuffixes_eq_map element] at hsplit
  rw [ofParam_eq, ofParam_eq, hsplit, String.toList_ofList, List.reverse_reverse]
  cases splitSuffixes element [] with
  | error e => rfl
  | ok p =>
    simp only [Except.map_ok, bind_assoc, Result.ok_bind, List.foldlM_append, List.foldlM_cons,
      List.foldlM_nil, bind_pure]

lemma ofParam_of_no_brackets {name kind : String} {components : List Param}
    (h : lastBrackets? (trim kind.toList).reverse = none) :
    ofParam ⟨name, kind, components⟩ =
      if (trim kind.toList).getLast? = some ']' then .error (.unknownType (stripped kind))
      else ofBase (trim kind.toList) components := by
  have hsplit := splitSuffixes_of_no_brackets [] ((trim_reverse kind.toList).symm ▸ h)
  rw [trim_reverse, List.reverse_reverse, List.head?_reverse, ← stripped] at hsplit
  rw [ofParam_eq, hsplit]
  split
  · rfl
  · simp only [Result.ok_bind, List.foldlM_nil, bind_pure]

/-- Blanks around a kind do not count. -/
theorem ofParam_congr {name kind other : String} {components : List Param}
    (h : stripped kind = stripped other) :
    ofParam ⟨name, kind, components⟩ = ofParam ⟨name, other, components⟩ := by
  have htrim : trim kind.toList = trim other.toList := String.ofList_inj.mp h
  cases hsplit : lastBrackets? (trim kind.toList).reverse with
  | some p =>
    rw [ofParam_of_brackets hsplit, h]
    exact (ofParam_of_brackets (htrim ▸ hsplit)).symm
  | none =>
    rw [ofParam_of_no_brackets hsplit, htrim, h]
    exact (ofParam_of_no_brackets (htrim ▸ hsplit)).symm

/-- A parameter of an array is one of its item with a suffix. -/
theorem ofParam_suffix {name kind size : String} {components : List Param}
    (hblank : IsWord size.toList) (hsize : '[' ∉ size.toList) :
    ofParam ⟨name, kind ++ "[" ++ size ++ "]", components⟩ =
      ofParam ⟨name, kind, components⟩ >>= fun item =>
        wrap item (stripped (kind ++ "[" ++ size ++ "]"), size.toList) := by
  have htrim : trim (kind ++ "[" ++ size ++ "]").toList =
      trimStart kind.toList ++ '[' :: size.toList ++ [']'] := by
    have hend : IsWord ('[' :: size.toList ++ [']']) := by
      simp only [IsWord, List.forall_mem_append, List.forall_mem_cons, List.cons_append]
      exact ⟨by decide,hblank,by decide,List.forall_mem_nil _⟩
    have htext : (kind ++ "[" ++ size ++ "]").toList =
        kind.toList ++ ('[' :: size.toList ++ [']']) := by simp
    rw [htext, ← trimStart_trimEnd, trimEnd_append_word _ hend (by simp), trimStart, trimStart,
      List.dropWhile_append]
    split
    · next hempty =>
      rw [List.isEmpty_iff.mp hempty, dropWhile_word hend]
      rfl
    · exact (List.append_assoc _ _ _).symm
  have hsplit := lastBrackets?_suffix (trimStart kind.toList) hsize
  rw [← htrim] at hsplit
  rw [ofParam_of_brackets hsplit, List.reverse_reverse]
  refine congrArg (· >>= _) (ofParam_congr ?_)
  rw [stripped, stripped, String.toList_ofList, trim, trimStart, trimStart,
    List.dropWhile_idempotent, ← trimStart, ← trim]

/-! ## Elementary types -/

/-- A word without brackets names a type without suffixes. -/
lemma ofParam_of_isWord {name kind : String} {components : List Param}
    (hword : IsWord kind.toList) (hclose : ']' ∉ kind.toList) :
    ofParam ⟨name, kind, components⟩ = ofBase kind.toList components := by
  have hhead : ∀ rest, kind.toList.reverse ≠ ']' :: rest := by
    intro rest heq
    exact hclose (List.mem_reverse.mp (by simp [heq]))
  have hlast : kind.toList.getLast? ≠ some ']' := fun h => hclose (List.mem_of_getLast? h)
  have hnone : lastBrackets? (trim kind.toList).reverse = none := by
    rw [trim_word hword]
    unfold lastBrackets?
    split
    · next body heq => exact absurd heq (hhead body)
    · rfl
  rw [ofParam_of_no_brackets hnone, trim_word hword, if_neg hlast]

/-- A kind of letters and digits has no suffixes. -/
lemma ofParam_of_isAlphanum {name kind : String} {components : List Param}
    (h : ∀ c ∈ kind.toList, c.isAlphanum = true) :
    ofParam ⟨name, kind, components⟩ = ofBase kind.toList components :=
  ofParam_of_isWord (isWord_of_isAlphanum h) fun hmem => absurd (h _ hmem) (by decide)

lemma width?_eq_some_iff {cs : List Char} {bits : Nat} : width? cs = some bits ↔
    (8 ≤ bits ∧ bits ≤ 256 ∧ bits % 8 = 0) ∧
      ∃ front, Surplus front ∧ cs = front ++ Nat.toDigits 10 bits := by
  have hword : bits ≤ 256 → bits < wordBound := fun h => Nat.lt_of_le_of_lt h (by decide)
  simp only [width?, Option.filter_eq_some_iff, natBelow_eq_some_iff, decide_eq_true_eq]
  tauto

lemma byteCount?_eq_some_iff {cs : List Char} {size : Nat} : byteCount? cs = some size ↔
    (1 ≤ size ∧ size ≤ 32) ∧ ∃ front, Surplus front ∧ cs = front ++ Nat.toDigits 10 size := by
  have hword : size ≤ 32 → size < wordBound := fun h => Nat.lt_of_le_of_lt h (by decide)
  simp only [byteCount?, Option.filter_eq_some_iff, natBelow_eq_some_iff, decide_eq_true_eq]
  tauto

lemma elementary?_uint {ds : List Char} (h : ds ≠ []) {bits : Nat}
    (hwidth : width? ds = some bits) : elementary? ("uint".toList ++ ds) = some (.uint bits) := by
  obtain ⟨d,ds,rfl⟩ := List.exists_cons_of_ne_nil h
  -- with a digit behind its letters a kind is none of the plain ones
  change ((width? (d :: ds)).map uint <|> _) = _
  rw [hwidth]
  rfl

lemma elementary?_int {ds : List Char} (h : ds ≠ []) {bits : Nat}
    (hwidth : width? ds = some bits) : elementary? ("int".toList ++ ds) = some (.int bits) := by
  obtain ⟨d,ds,rfl⟩ := List.exists_cons_of_ne_nil h
  change (none <|> (width? (d :: ds)).map int <|> _) = _
  rw [hwidth]
  rfl

lemma elementary?_bytes {ds : List Char} (h : ds ≠ []) {size : Nat}
    (hcount : byteCount? ds = some size) :
    elementary? ("bytes".toList ++ ds) = some (.fixedBytes size) := by
  obtain ⟨d,ds,rfl⟩ := List.exists_cons_of_ne_nil h
  change (none <|> none <|> (byteCount? (d :: ds)).map fixedBytes) = _
  rw [hcount]
  rfl

lemma isAlphanum_text {ty : Ty} (h : ty.IsElementary) :
    ∀ c ∈ ty.text.toList, c.isAlphanum = true := by
  cases ty with
  | uint bits | int bits | fixedBytes bits =>
    simp only [text, String.toList_append, List.forall_mem_append]
    exact ⟨List.all_eq_true.mp (by decide),by simpa using isAlphanum_of_mem_toDigits⟩
  | array | fixedArray | tuple => exact h.elim
  | _ =>
    simp only [text]
    exact List.all_eq_true.mp (by decide)

lemma elementary?_text {ty : Ty} (h : ty.IsElementary) (hsizes : ty.WellFormed) :
    elementary? ty.text.toList = some ty := by
  cases ty with
  | uint bits =>
    simpa [text] using elementary?_uint Nat.toDigits_ne_nil
      (width?_eq_some_iff.mpr ⟨hsizes,_,.zeros 0,rfl⟩)
  | int bits =>
    simpa [text] using elementary?_int Nat.toDigits_ne_nil
      (width?_eq_some_iff.mpr ⟨hsizes,_,.zeros 0,rfl⟩)
  | fixedBytes size =>
    simpa [text] using elementary?_bytes Nat.toDigits_ne_nil
      (byteCount?_eq_some_iff.mpr ⟨hsizes,_,.zeros 0,rfl⟩)
  | array | fixedArray | tuple => exact h.elim
  | _ => rfl

/-- Elementary types are read back. -/
theorem ofParam_text {name : String} {components : List Param} {ty : Ty} (h : ty.IsElementary)
    (hsizes : ty.WellFormed) : ofParam ⟨name, ty.text, components⟩ = .ok ty := by
  have hread := elementary?_text h hsizes
  have htuple : ty.text.toList ≠ "tuple".toList := by
    intro heq
    rw [heq] at hread
    cases hread
  rw [ofParam_of_isAlphanum (isAlphanum_text h), ofBase, if_neg htuple, hread]

/-! ## Nested types -/

lemma kind_of_isElementary {ty : Ty} (h : ty.IsElementary) : ty.kind = ty.text := by
  cases ty <;> first | rfl | exact h.elim

lemma ofComponents_fieldParams {fields : List (String × Ty)}
    (h : ∀ f ∈ fields, ofParam ⟨f.1, f.2.kind, f.2.components⟩ = .ok f.2) :
    ofComponents (fieldParams fields) = .ok fields := by
  induction fields with
  | nil => rfl
  | cons f rest ih =>
    obtain ⟨hfirst,hrest⟩ := List.forall_mem_cons.mp h
    rw [fieldParams, ofComponents, hfirst, ih hrest]
    rfl

lemma fieldSizesFit_iff (fields : List (String × Ty)) :
    FieldSizesFit fields ↔ ∀ f ∈ fields, f.2.SizesFit := by
  induction fields with
  | nil => simp [FieldSizesFit]
  | cons f rest ih => simp [FieldSizesFit, ih]

lemma wrap_of_natBelow {item : Ty} {kind : String} {size : List Char} {n : Nat}
    (h : natBelow 10 wordBound size = some n) :
    wrap item (kind, size) = .ok (.fixedArray item n) := by
  cases size with
  | nil => cases h
  | cons c cs => simp [wrap, h]

lemma ofParam_kind {ty : Ty} (name : String) (h : ty.WellFormed) (hsizes : ty.SizesFit) :
    ofParam ⟨name, ty.kind, ty.components⟩ = .ok ty := by
  induction ty using kind_induction generalizing name with
  | elementary ty helem =>
    rw [kind_of_isElementary helem]
    exact ofParam_text helem h
  | array item ih =>
    have hkind : (array item).kind = item.kind ++ "[" ++ "" ++ "]" :=
      String.toList_inj.mp (by simp [kind])
    rw [hkind, ofParam_suffix (by decide) (by simp)]
    change ofParam ⟨name, item.kind, item.components⟩ >>= _ = _
    rw [ih name h hsizes]
    rfl
  | fixedArray item size ih =>
    have hdigits : (toString size).toList = Nat.toDigits 10 size := by simp
    have halphanum : ∀ c ∈ (toString size).toList, c.isAlphanum = true :=
      hdigits ▸ isAlphanum_of_mem_toDigits
    have hopen : '[' ∉ (toString size).toList := fun hmem => absurd (halphanum _ hmem) (by decide)
    rw [kind, ofParam_suffix (isWord_of_isAlphanum halphanum) hopen]
    change ofParam ⟨name, item.kind, item.components⟩ >>= _ = _
    rw [ih name h hsizes.1, Result.ok_bind, hdigits]
    exact wrap_of_natBelow (natBelow_toDigits hsizes.2)
  | tuple fields ih =>
    have hfields : ofComponents (fieldParams fields) = .ok fields :=
      ofComponents_fieldParams fun f hf => ih f hf f.1
        ((fieldsWellFormed_iff fields).mp h f hf) ((fieldSizesFit_iff fields).mp hsizes f hf)
    have htuple : ∀ c ∈ "tuple".toList, c.isAlphanum = true := List.all_eq_true.mp (by decide)
    rw [kind, ofParam_of_isAlphanum htuple, ofBase, if_pos rfl, components, hfields]
    rfl

lemma kind_of_tupleFree {ty : Ty} (h : ty.TupleFree) : ty.kind = ty.text ∧ ty.components = [] := by
  induction ty using kind_induction with
  | elementary ty helem =>
    exact ⟨kind_of_isElementary helem,by cases ty <;> first | rfl | exact helem.elim⟩
  | array item ih => exact ⟨by rw [kind, text, (ih h).1],(ih h).2⟩
  | fixedArray item size ih => exact ⟨by rw [kind, text, (ih h).1],(ih h).2⟩
  | tuple fields => exact h.elim

/-- A type is read back from the kind and the components that are written for it, however arrays
and tuples nest, and a type without tuples also from its text alone. -/
theorem parse_kind {ty : Ty} (h : ty.WellFormed) (hsizes : ty.SizesFit) :
    parse ty.kind ty.components = .ok ty ∧ (ty.TupleFree → parse ty.text [] = .ok ty) := by
  have hread := ofParam_kind "" h hsizes
  refine ⟨hread,fun hfree => ?_⟩
  obtain ⟨hkind,hcomponents⟩ := kind_of_tupleFree hfree
  rwa [hkind, hcomponents] at hread

/-- Tuples in an array in a tuple in two arrays, and arrays of empty arrays. -/
theorem parse_kind_nested :
    WellFormed (.array (.fixedArray (.tuple [("a", .array (.tuple [("b", .uint 8)]))]) 2)) ∧
    SizesFit (.array (.fixedArray (.tuple [("a", .array (.tuple [("b", .uint 8)]))]) 2)) ∧
    parse "tuple[2][]" [⟨"a", "tuple[]", [⟨"b", "uint8", []⟩]⟩] =
      .ok (.array (.fixedArray (.tuple [("a", .array (.tuple [("b", .uint 8)]))]) 2)) ∧
    WellFormed (.array (.fixedArray (.int 256) 0)) ∧ SizesFit (.array (.fixedArray (.int 256) 0)) ∧
    parse "int256[0][]" [] = .ok (.array (.fixedArray (.int 256) 0)) := by
  have hnested : WellFormed
      (.array (.fixedArray (.tuple [("a", .array (.tuple [("b", .uint 8)]))]) 2)) := by
    simp [WellFormed, FieldsWellFormed]
  have hnestedFit : SizesFit
      (.array (.fixedArray (.tuple [("a", .array (.tuple [("b", .uint 8)]))]) 2)) := by
    simp [SizesFit, FieldSizesFit, wordBound]
  have hempty : WellFormed (.array (.fixedArray (.int 256) 0)) := by simp [WellFormed]
  have hemptyFit : SizesFit (.array (.fixedArray (.int 256) 0)) := by simp [SizesFit, wordBound]
  exact ⟨hnested,hnestedFit,(parse_kind hnested hnestedFit).1,hempty,hemptyFit,
    (parse_kind hempty hemptyFit).2 trivial⟩

end DeployCheck.Abi.Ty
