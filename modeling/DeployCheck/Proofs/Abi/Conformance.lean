import DeployCheck.Proofs.Abi.Arguments
import DeployCheck.Proofs.Text.StrictHex

/-! Which arguments are encoded: those that conform to their types at every depth. -/
namespace DeployCheck.Abi

open Text

namespace Value

/-- An argument conforms to a type; the radix is that of integer texts without a marker. -/
inductive Conforms : Ty → Radix → Json → Prop
  | address {r : Radix} {s : String} (h : Hex.Spells 20 s) : Conforms .address r (.str s)
  | bool {r : Radix} {j : Json} {b : Bool} (h : Flag j b) : Conforms .bool r j
  | uint {bits : Nat} {r : Radix} {j : Json} {n : Int} (hread : integer r j = .ok n)
      (hlo : 0 ≤ n) (hhi : n < 2 ^ bits) : Conforms (.uint bits) r j
  | int {bits : Nat} {r : Radix} {j : Json} {n : Int} (hread : integer r j = .ok n)
      (hlo : -2 ^ (bits - 1) ≤ n) (hhi : n < 2 ^ (bits - 1)) : Conforms (.int bits) r j
  | fixedBytes {size count : Nat} {r : Radix} {s : String} (h : Hex.Spells count s)
      (hsize : count ≤ size) : Conforms (.fixedBytes size) r (.str s)
  | bytes {count : Nat} {r : Radix} {s : String} (h : Hex.Spells count s) :
      Conforms .bytes r (.str s)
  | string {r : Radix} {s : String} : Conforms .string r (.str s)
  | array {item : Ty} {r : Radix} {items : List Json}
      (h : ∀ j ∈ items, Conforms item .decimal j) : Conforms (.array item) r (.arr items)
  | fixedArray {item : Ty} {size : Nat} {r : Radix} {items : List Json}
      (hsize : items.length = size) (h : ∀ j ∈ items, Conforms item .decimal j) :
      Conforms (.fixedArray item size) r (.arr items)
  | tuple {fields : List (String × Ty)} {r : Radix} {j : Json} {members : List Json}
      (hmembers : Members fields j members)
      (h : ∀ m ∈ fields.zip members, Conforms m.1.2 .decimal m.2) : Conforms (.tuple fields) r j

lemma spells_iff_hexBytes {size : Nat} {s : String} :
    Hex.Spells size s ↔ ∃ bs, hexBytes s = .ok bs ∧ bs.length = size := by
  simp only [hexBytes, Hex.decode_eq_ok_iff, String.toList_ofList, Hex.spells_iff]

lemma exists_forall₂_iff {α β : Type} {R : α → β → Prop} {as : List α} :
    (∃ bs, List.Forall₂ R as bs) ↔ ∀ a ∈ as, ∃ b, R a b := by
  induction as with
  | nil => simp
  | cons a as ih =>
    simp only [List.forall₂_cons_left_iff, List.forall_mem_cons, ← ih]
    constructor
    · rintro ⟨_,b,bs,hb,hbs,-⟩
      exact ⟨⟨b,hb⟩,bs,hbs⟩
    · rintro ⟨⟨b,hb⟩,bs,hbs⟩
      exact ⟨_,b,bs,hb,hbs,rfl⟩

/-- Arguments denote values together if each of them denotes one. -/
lemma exists_denoteAll_iff {tys : List Ty} {r : Radix} {js : List Json} :
    (∃ vs, DenoteAll tys r js vs) ↔ List.Forall₂ (fun ty j => ∃ v, Denotes ty r j v) tys js := by
  induction tys generalizing js with
  | nil =>
    rw [List.forall₂_nil_left_iff]
    constructor
    · rintro ⟨vs,⟨⟩⟩
      rfl
    · rintro rfl
      exact ⟨[],.nil⟩
  | cons ty tys ih =>
    cases js with
    | nil =>
      refine iff_of_false ?_ (by simp)
      rintro ⟨vs,⟨⟩⟩
    | cons j js =>
      rw [List.forall₂_cons, ← ih]
      simp only [denoteAll_cons_iff]
      constructor
      · rintro ⟨_,v,vs,hv,hvs,-⟩
        exact ⟨⟨v,hv⟩,vs,hvs⟩
      · rintro ⟨⟨v,hv⟩,vs,hvs⟩
        exact ⟨_,v,vs,hv,hvs,rfl⟩

lemma exists_denoteAll_replicate_iff {item : Ty} {r : Radix} {items : List Json} :
    (∃ vs, DenoteAll (List.replicate items.length item) r items vs) ↔
      ∀ j ∈ items, ∃ v, Denotes item r j v := by
  simp only [denoteAll_replicate_iff, exists_forall₂_iff]

lemma exists_denoteAll_fields_iff {fields : List (String × Ty)} {members : List Json}
    (hlen : members.length = fields.length) :
    (∃ vs, DenoteAll (fields.map Prod.snd) .decimal members vs) ↔
      ∀ m ∈ fields.zip members, ∃ v, Denotes m.1.2 .decimal m.2 v := by
  rw [exists_denoteAll_iff, List.forall₂_map_left_iff, List.forall₂_iff_zip]
  simp [hlen]

/-- The arguments that conform are those that denote a value. -/
theorem exists_denotes_iff {ty : Ty} {r : Radix} {j : Json} :
    (∃ v, Denotes ty r j v) ↔ Conforms ty r j := by
  induction ty using Ty.nested_induction generalizing r j with
  | address =>
    constructor
    · rintro ⟨v,h⟩
      cases h with
      | address hread hsize => exact .address (spells_iff_hexBytes.mpr ⟨_,hread,hsize⟩)
    · rintro ⟨hspells⟩
      obtain ⟨bs,hread,hsize⟩ := spells_iff_hexBytes.mp hspells
      exact ⟨_,.address hread hsize⟩
  | bool =>
    constructor
    · rintro ⟨v,h⟩
      cases h with
      | bool hflag => exact .bool hflag
    · intro h
      cases h with
      | bool hflag => exact ⟨_,.bool hflag⟩
  | uint bits =>
    constructor
    · rintro ⟨v,h⟩
      cases h with
      | uint hread hlo hhi => exact .uint hread hlo hhi
    · intro h
      cases h with
      | uint hread hlo hhi => exact ⟨_,.uint hread hlo hhi⟩
  | int bits =>
    constructor
    · rintro ⟨v,h⟩
      cases h with
      | int hread hlo hhi => exact .int hread hlo hhi
    · intro h
      cases h with
      | int hread hlo hhi => exact ⟨_,.int hread hlo hhi⟩
  | fixedBytes size =>
    constructor
    · rintro ⟨v,h⟩
      cases h with
      | fixedBytes hread hsize =>
        exact .fixedBytes (spells_iff_hexBytes.mpr ⟨_,hread,rfl⟩) hsize
    · intro h
      cases h with
      | fixedBytes hspells hsize =>
        obtain ⟨bs,hread,rfl⟩ := spells_iff_hexBytes.mp hspells
        exact ⟨_,.fixedBytes hread hsize⟩
  | bytes =>
    constructor
    · rintro ⟨v,h⟩
      cases h with
      | bytes hread => exact .bytes (spells_iff_hexBytes.mpr ⟨_,hread,rfl⟩)
    · intro h
      cases h with
      | bytes hspells =>
        obtain ⟨bs,hread,-⟩ := spells_iff_hexBytes.mp hspells
        exact ⟨_,.bytes hread⟩
  | string =>
    constructor
    · rintro ⟨v,h⟩
      cases h with
      | string => exact .string
    · intro h
      cases h with
      | string => exact ⟨_,.string⟩
  | array item ih =>
    constructor
    · rintro ⟨v,h⟩
      cases h with
      | array hitems =>
        have hall := exists_denoteAll_replicate_iff.mp ⟨_,hitems⟩
        exact .array fun j hj => ih.mp (hall j hj)
    · intro h
      cases h with
      | array hitems =>
        obtain ⟨vs,hvs⟩ := exists_denoteAll_replicate_iff.mpr fun j hj => ih.mpr (hitems j hj)
        exact ⟨_,.array hvs⟩
  | fixedArray item size ih =>
    constructor
    · rintro ⟨v,h⟩
      cases h with
      | fixedArray hsize hitems =>
        have hall := exists_denoteAll_replicate_iff.mp ⟨_,hitems⟩
        exact .fixedArray hsize fun j hj => ih.mp (hall j hj)
    · intro h
      cases h with
      | fixedArray hsize hitems =>
        obtain ⟨vs,hvs⟩ := exists_denoteAll_replicate_iff.mpr fun j hj => ih.mpr (hitems j hj)
        exact ⟨_,.fixedArray hsize hvs⟩
  | tuple fields ih =>
    have hfield {members : List Json} {m : (String × Ty) × Json} (hm : m ∈ fields.zip members) :
        (∃ v, Denotes m.1.2 .decimal m.2 v) ↔ Conforms m.1.2 .decimal m.2 :=
      ih m.1 (List.of_mem_zip hm).1
    constructor
    · rintro ⟨v,h⟩
      cases h with
      | tuple hgiven hvs =>
        have hall := (exists_denoteAll_fields_iff hgiven.length_eq).mp ⟨_,hvs⟩
        exact .tuple hgiven fun m hm => (hfield hm).mp (hall m hm)
    · intro h
      cases h with
      | tuple hgiven hall =>
        obtain ⟨vs,hvs⟩ := (exists_denoteAll_fields_iff hgiven.length_eq).mpr
          fun m hm => (hfield hm).mpr (hall m hm)
        exact ⟨_,.tuple hgiven hvs⟩

end Value

open Value

/-- What arguments denote is encoded. -/
lemma encodeArguments_of_denoteAll {inputs : List Param} {args : List Json} {tys : List Ty}
    {vs : List Value} (harity : inputs.length = args.length)
    (htys : inputs.mapM Ty.ofParam = .ok tys) (hvs : DenoteAll tys .hex args vs) :
    encodeArguments inputs args = .ok (encodeSequence tys vs) := by
  have hcount : args.length = tys.length :=
    harity.symm.trans (Result.mapM_eq_ok_iff.mp htys).length_eq
  have hread := (ofArgs_eq_ok_iff hcount).mpr hvs
  unfold encodeArguments
  rw [if_neg (not_not.mpr harity)]
  exact Result.bind_eq_ok_iff.mpr ⟨tys,htys,Result.bind_eq_ok_iff.mpr ⟨vs,hread,rfl⟩⟩

/-- What was encoded is what the arguments denote. -/
lemma denoteAll_of_encodeArguments {inputs : List Param} {args : List Json} {data : List UInt8}
    (h : encodeArguments inputs args = .ok data) :
    ∃ tys vs, List.Forall₂ (fun p ty => Ty.ofParam p = .ok ty) inputs tys ∧
      DenoteAll tys .hex args vs ∧ data = encodeSequence tys vs := by
  obtain ⟨harity,tys,vs,htys,hvs,rfl⟩ := exists_of_encodeArguments h
  have hparams := Result.mapM_eq_ok_iff.mp htys
  have hcount : args.length = tys.length := harity.symm.trans hparams.length_eq
  exact ⟨tys,vs,hparams,(ofArgs_eq_ok_iff hcount).mp hvs,rfl⟩

/-- Arguments are encoded exactly if there are as many as inputs, every input has a type, and every
argument conforms to it. The data then hold the values that the arguments denote, so none was
brought into range. -/
theorem exists_encodeArguments_iff (inputs : List Param) (args : List Json) :
    ((∃ data, encodeArguments inputs args = .ok data) ↔
      inputs.length = args.length ∧ ∃ tys,
        List.Forall₂ (fun p ty => Ty.ofParam p = .ok ty) inputs tys ∧
        List.Forall₂ (fun ty j => Conforms ty .hex j) tys args) ∧
    ∀ data, encodeArguments inputs args = .ok data →
      ∃ tys vs, List.Forall₂ (fun p ty => Ty.ofParam p = .ok ty) inputs tys ∧
        DenoteAll tys .hex args vs ∧ data = encodeSequence tys vs := by
  refine ⟨⟨?_,?_⟩,fun data h => denoteAll_of_encodeArguments h⟩
  · rintro ⟨data,h⟩
    obtain ⟨tys,vs,hparams,hvs,-⟩ := denoteAll_of_encodeArguments h
    refine ⟨(exists_of_encodeArguments h).1,tys,hparams,?_⟩
    simp only [← exists_denotes_iff]
    exact exists_denoteAll_iff.mp ⟨vs,hvs⟩
  · rintro ⟨harity,tys,hparams,hconform⟩
    simp only [← exists_denotes_iff] at hconform
    obtain ⟨vs,hvs⟩ := exists_denoteAll_iff.mpr hconform
    exact ⟨_,encodeArguments_of_denoteAll harity (Result.mapM_eq_ok_iff.mpr hparams) hvs⟩

/-- The two ends of a range are accepted in an array, and nothing past them. -/
theorem exists_encodeArguments_iff_ends :
    (∃ data, encodeArguments [⟨"ns","int8[2]",[]⟩] [.arr [.str "-128",.str "127"]] = .ok data) ∧
      ¬∃ data, encodeArguments [⟨"ns","int8[2]",[]⟩] [.arr [.str "-128",.str "128"]] = .ok data := by
  have hty : Ty.ofParam ⟨"ns","int8[2]",[]⟩ = .ok (.fixedArray (.int 8) 2) := by
    with_unfolding_all rfl
  have hread (s : String) (n : Int) (h : (integer .decimal (.str s)).toOption = some n) :
      integer .decimal (.str s) = .ok n := Result.eq_ok_of_toOption h
  have hlow := hread "-128" (-128) (by decide +kernel)
  have hhigh := hread "127" 127 (by decide +kernel)
  have hpast := hread "128" 128 (by decide +kernel)
  constructor
  · refine (exists_encodeArguments_iff _ _).1.mpr ⟨rfl,_,.cons hty .nil,.cons ?_ .nil⟩
    refine .fixedArray rfl (List.forall_mem_cons.mpr ⟨?_,List.forall_mem_singleton.mpr ?_⟩)
    · exact .int hlow (by decide) (by decide)
    · exact .int hhigh (by decide) (by decide)
  · intro h
    obtain ⟨-,tys,htys,hconform⟩ := (exists_encodeArguments_iff _ _).1.mp h
    obtain ⟨ty,tys,hty',-,rfl⟩ := List.forall₂_cons_left_iff.mp htys
    cases hty.symm.trans hty'
    cases (List.forall₂_cons.mp hconform).1 with
    | fixedArray _ hitems =>
      cases hitems (.str "128") (by simp) with
      | int hread' _ hhi =>
        cases hpast.symm.trans hread'
        exact absurd hhi (by decide)

end DeployCheck.Abi
