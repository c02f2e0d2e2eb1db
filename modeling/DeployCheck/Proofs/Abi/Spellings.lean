import DeployCheck.Proofs.Abi.Arguments
import DeployCheck.Proofs.Text.IntegerGrammar

/-! Spellings of arguments. What is encoded depends on the numbers that are written and on the
members of tuples in their order, not on how either is written. -/
namespace DeployCheck.Abi

namespace Value

/-- The ways to write an integer: as a number, or as a text whose digits without a marker are of the
radix. -/
inductive Spells (r : Radix) (n : Int) : Json → Prop
  | number : Spells r n (.int n)
  | text {s : String} (h : Text.Integer.Writes r.base s.toList n) : Spells r n (.str s)

/-- An integer is read from its spellings and from nothing else. -/
theorem integer_eq_ok_iff {r : Radix} {j : Json} {n : Int} :
    integer r j = .ok n ↔ Spells r n j := by
  have hbase : r.base ≤ 16 := by cases r <;> decide
  constructor
  · intro h
    unfold integer at h
    split at h
    · cases h
      exact .number
    · cases h
    · split at h
      · next hread =>
        cases h
        exact .text ((Text.Integer.read_eq_some_iff hbase).mp hread)
      · cases h
    · cases h
  · intro h
    cases h with
    | number => rfl
    | text h => simp only [integer, (Text.Integer.read_eq_some_iff hbase).mpr h]

mutual

/-- An argument of a type is written in another way: integers in any spelling, and tuples by
position or by name, at any depth. -/
inductive Respelled : Ty → Radix → Json → Json → Prop
  | same {ty : Ty} {r : Radix} {j : Json} : Respelled ty r j j
  | uint {bits : Nat} {r : Radix} {n : Int} {j k : Json} (before : Spells r n j)
      (after : Spells r n k) : Respelled (.uint bits) r j k
  | int {bits : Nat} {r : Radix} {n : Int} {j k : Json} (before : Spells r n j)
      (after : Spells r n k) : Respelled (.int bits) r j k
  | array {item : Ty} {r : Radix} {js ks : List Json}
      (items : RespelledAll (List.replicate js.length item) .decimal js ks) :
      Respelled (.array item) r (.arr js) (.arr ks)
  | fixedArray {item : Ty} {size : Nat} {r : Radix} {js ks : List Json}
      (items : RespelledAll (List.replicate js.length item) .decimal js ks) :
      Respelled (.fixedArray item size) r (.arr js) (.arr ks)
  | tuple {fields : List (String × Ty)} {r : Radix} {j k : Json} {js ks : List Json}
      (before : Members fields j js) (after : Members fields k ks)
      (members : RespelledAll (fields.map Prod.snd) .decimal js ks) :
      Respelled (.tuple fields) r j k

/-- Arguments of types are written in another way, one by one. -/
inductive RespelledAll : List Ty → Radix → List Json → List Json → Prop
  | nil {r : Radix} : RespelledAll [] r [] []
  | cons {ty : Ty} {tys : List Ty} {r : Radix} {j k : Json} {js ks : List Json}
      (h : Respelled ty r j k) (hrest : RespelledAll tys r js ks) :
      RespelledAll (ty :: tys) r (j :: js) (k :: ks)

end

lemma RespelledAll.length_eq {tys : List Ty} {r : Radix} {js ks : List Json}
    (h : RespelledAll tys r js ks) : js.length = tys.length ∧ ks.length = tys.length := by
  induction tys generalizing js ks with
  | nil =>
    cases h
    exact ⟨rfl,rfl⟩
  | cons ty tys ih =>
    cases h with
    | cons _ hrest =>
      obtain ⟨hjs,hks⟩ := ih hrest
      exact ⟨congrArg Nat.succ hjs,congrArg Nat.succ hks⟩

/-- The members of a tuple are the same each time they are looked up. -/
lemma Members.unique {fields : List (String × Ty)} {j : Json} {js ks : List Json}
    (hjs : Members fields j js) (hks : Members fields j ks) : js = ks := by
  rw [← tupleMembers_eq_ok_iff] at hjs hks
  exact Except.ok.inj (hjs.symm.trans hks)

lemma denoteAll_of_respelledAll {tys : List Ty} {r : Radix} {js ks : List Json} {vs : List Value}
    (hone : ∀ ty ∈ tys, ∀ j k v, Respelled ty r j k → Denotes ty r j v → Denotes ty r k v)
    (h : RespelledAll tys r js ks) (hvs : DenoteAll tys r js vs) : DenoteAll tys r ks vs := by
  induction tys generalizing js ks vs with
  | nil =>
    cases h
    exact hvs
  | cons ty tys ih =>
    cases h with
    | cons hspell hrest =>
      obtain ⟨v,rest,hv,htail,rfl⟩ := denoteAll_cons_iff.mp hvs
      exact .cons (hone ty (by simp) _ _ _ hspell hv)
        (ih (fun t ht => hone t (by simp [ht])) hrest htail)

/-- A spelling of the integer that was read is read as the same integer. -/
lemma integer_of_spells {r : Radix} {n m : Int} {j k : Json} (before : Spells r n j)
    (after : Spells r n k) (hread : integer r j = .ok m) : integer r k = .ok m := by
  have hn := integer_eq_ok_iff.mpr before
  obtain rfl : m = n := Except.ok.inj (hread.symm.trans hn)
  exact integer_eq_ok_iff.mpr after

/-- An argument denotes the same value however it is written. -/
theorem denotes_of_respelled {ty : Ty} {r : Radix} {j k : Json} {v : Value}
    (h : Respelled ty r j k) (hv : Denotes ty r j v) : Denotes ty r k v := by
  -- items of one type, in terms of the hypothesis about that type
  have hitems {item : Ty} {js ks : List Json} {vs : List Value}
      (ih : ∀ {r j k v}, Respelled item r j k → Denotes item r j v → Denotes item r k v)
      (h : RespelledAll (List.replicate js.length item) .decimal js ks)
      (hvs : DenoteAll (List.replicate js.length item) .decimal js vs) :
      ks.length = js.length ∧ DenoteAll (List.replicate ks.length item) .decimal ks vs := by
    have hlength : ks.length = js.length := by simpa using h.length_eq.2
    refine ⟨hlength,hlength ▸ denoteAll_of_respelledAll (fun ty hty _ _ _ => ?_) h hvs⟩
    rw [List.eq_of_mem_replicate hty]
    exact ih
  induction ty using Ty.nested_induction generalizing r j k v with
  | uint bits =>
    cases h with
    | same => exact hv
    | uint before after =>
      cases hv with
      | uint hread hlo hhi => exact .uint (integer_of_spells before after hread) hlo hhi
  | int bits =>
    cases h with
    | same => exact hv
    | int before after =>
      cases hv with
      | int hread hlo hhi => exact .int (integer_of_spells before after hread) hlo hhi
  | array item ih =>
    cases h with
    | same => exact hv
    | array hrespelled =>
      cases hv with
      | array hvs => exact .array (hitems ih hrespelled hvs).2
  | fixedArray item size ih =>
    cases h with
    | same => exact hv
    | fixedArray hrespelled =>
      cases hv with
      | fixedArray hsize hvs =>
        obtain ⟨hlength,hvs⟩ := hitems ih hrespelled hvs
        exact .fixedArray (hlength.trans hsize) hvs
  | tuple fields ih =>
    cases h with
    | same => exact hv
    | tuple before after members =>
      cases hv with
      | tuple hgiven hvs =>
        obtain rfl := hgiven.unique before
        refine .tuple after (denoteAll_of_respelledAll (fun ty hty _ _ _ => ?_) members hvs)
        obtain ⟨f,hf,rfl⟩ := List.mem_map.mp hty
        exact ih f hf
  | _ =>
    cases h
    exact hv

end Value

open Value

/-- What arguments encode to depends on the integers and on the members of tuples that they write,
not on how they write them: by position or by name, and in any spelling that is read at that depth.
The spellings are those from which an integer is read. -/
theorem encodeArguments_respelled {inputs : List Param} {args : List Json} {data : List UInt8}
    (h : encodeArguments inputs args = .ok data) :
    (∃ tys, inputs.mapM Ty.ofParam = .ok tys ∧
      ∀ others, RespelledAll tys .hex args others → encodeArguments inputs others = .ok data) ∧
    ∀ r n j, integer r j = .ok n ↔ Spells r n j := by
  obtain ⟨harity,tys,vs,htys,hvs,rfl⟩ := exists_of_encodeArguments h
  have hparams := Result.mapM_eq_ok_iff.mp htys
  have hcount : args.length = tys.length := harity.symm.trans hparams.length_eq
  have hdenote : DenoteAll tys .hex args vs := (ofArgs_eq_ok_iff hcount).mp hvs
  refine ⟨⟨tys,htys,fun others hothers => ?_⟩,fun _ _ _ => integer_eq_ok_iff⟩
  obtain ⟨-,hothers_count⟩ := hothers.length_eq
  have hsame : DenoteAll tys .hex others vs :=
    denoteAll_of_respelledAll (fun _ _ _ _ _ => denotes_of_respelled) hothers hdenote
  have hread : ofArgs tys others = .ok vs := (ofArgs_eq_ok_iff hothers_count).mpr hsame
  have harity_others : inputs.length = others.length :=
    hparams.length_eq.trans hothers_count.symm
  rw [encodeArguments, if_neg (not_not.mpr harity_others), htys, Result.ok_bind, hread]
  rfl

/-- A tuple by name and by position, with an array in it, and texts that mean 10 in it and 31 beside
it. -/
theorem encodeArguments_respelled_named :
    let inputs : List Param :=
      [⟨"cfg","tuple",[⟨"id","uint8",[]⟩,⟨"steps","int16[]",[]⟩]⟩,⟨"n","uint256",[]⟩]
    let tys : List Ty := [.tuple [("id",.uint 8),("steps",.array (.int 16))],.uint 256]
    let args : List Json :=
      [.obj [("steps",.arr [.str "-12",.int 3]),("id",.str "10")],.str " 0X1f "]
    let others : List Json := [.arr [.str "0xA",.arr [.int (-12),.str "+0_3"]],.str "1F"]
    let data := word 64 ++ word 31 ++ word 10 ++ word 64 ++ word 2 ++ intWord (-12) ++ word 3
    encodeArguments inputs args = .ok data ∧ RespelledAll tys .hex args others ∧
      encodeArguments inputs others = .ok data := by
  intro inputs tys args others data
  have hok : encodeArguments inputs args = .ok data :=
    Result.eq_ok_of_toOption (by decide +kernel)
  have htys : inputs.mapM Ty.ofParam = .ok tys := by
    with_unfolding_all rfl
  have hspells (r : Radix) (s : String) (n : Int) (h : (integer r (.str s)).toOption = some n) :
      Spells r n (.str s) := integer_eq_ok_iff.mp (Result.eq_ok_of_toOption h)
  have htwelve := hspells .decimal "-12" (-12) (by decide +kernel)
  have hthree := hspells .decimal "+0_3" 3 (by decide +kernel)
  have hten := hspells .decimal "10" 10 (by decide +kernel)
  have hmarked := hspells .decimal "0xA" 10 (by decide +kernel)
  have hblanks := hspells .hex " 0X1f " 31 (by decide +kernel)
  have hbare := hspells .hex "1F" 31 (by decide +kernel)
  have hsteps : Respelled (.array (.int 16)) .decimal (.arr [.str "-12",.int 3])
      (.arr [.int (-12),.str "+0_3"]) :=
    .array (.cons (.int htwelve .number) (.cons (.int .number hthree) .nil))
  have hcfg : Respelled (.tuple [("id",.uint 8),("steps",.array (.int 16))]) .hex
      (.obj [("steps",.arr [.str "-12",.int 3]),("id",.str "10")])
      (.arr [.str "0xA",.arr [.int (-12),.str "+0_3"]]) :=
    .tuple (.named (.cons rfl (.cons rfl .nil))) (.listed rfl)
      (.cons (.uint hten hmarked) (.cons hsteps .nil))
  have hothers : RespelledAll tys .hex args others :=
    .cons hcfg (.cons (.uint hblanks hbare) .nil)
  obtain ⟨read,hread,hsame⟩ := (encodeArguments_respelled hok).1
  obtain rfl : read = tys := Except.ok.inj (hread.symm.trans htys)
  exact ⟨hok,hothers,hsame others hothers⟩

end DeployCheck.Abi
