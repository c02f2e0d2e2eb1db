import DeployCheck.Proofs.Abi.Denotation
import DeployCheck.Proofs.Abi.RoundTrip

/-! Encoded constructor arguments are read back as what the arguments denote. -/
namespace DeployCheck

namespace Json

mutual

/-- Every array in a value has fewer than `bound` items. -/
def ArraysBelow (bound : Nat) : Json → Prop
  | .arr items => items.length < bound ∧ ItemsBelow bound items
  | .obj members => MembersBelow bound members
  | _ => True

def ItemsBelow (bound : Nat) : List Json → Prop
  | [] => True
  | j :: rest => j.ArraysBelow bound ∧ ItemsBelow bound rest

def MembersBelow (bound : Nat) : List (String × Json) → Prop
  | [] => True
  | (_, j) :: rest => j.ArraysBelow bound ∧ MembersBelow bound rest

end

lemma itemsBelow_iff {bound : Nat} {items : List Json} :
    ItemsBelow bound items ↔ ∀ j ∈ items, j.ArraysBelow bound := by
  induction items with
  | nil => simp [ItemsBelow]
  | cons j rest ih => simp [ItemsBelow, ih]

lemma arraysBelow_of_lookup {bound : Nat} {key : String} {members : List (String × Json)}
    (h : MembersBelow bound members) {j : Json} (hj : lookup key members = some j) :
    j.ArraysBelow bound := by
  induction members with
  | nil => cases hj
  | cons e rest ih =>
    rw [lookup] at hj
    split_ifs at hj
    · cases hj
      exact h.1
    · exact ih h.2 hj

end Json

namespace Abi.Value

lemma Members.arraysBelow {bound : Nat} {fields : List (String × Ty)} {j : Json}
    {members : List Json} (h : Members fields j members) (hj : j.ArraysBelow bound) :
    ∀ m ∈ members, m.ArraysBelow bound := by
  cases h with
  | listed => exact Json.itemsBelow_iff.mp hj.2
  | named hfields =>
    intro m hm
    induction hfields with
    | nil => cases hm
    | cons hlookup _ ih =>
      rcases List.mem_cons.mp hm with rfl | hm
      · exact Json.arraysBelow_of_lookup hj hlookup
      · exact ih hm

lemma fitAll_of_denoteAll {tys : List Ty} {r : Radix} {js : List Json} {vs : List Value}
    (hfits : ∀ ty ∈ tys, ∀ j v, j.ArraysBelow (2 ^ 256) → Denotes ty r j v → Fits ty v)
    (hjs : ∀ j ∈ js, j.ArraysBelow (2 ^ 256)) (h : DenoteAll tys r js vs) :
    FitAll tys vs := by
  induction tys generalizing js vs with
  | nil =>
    cases h
    exact .nil
  | cons ty tys ih =>
    cases h with
    | @cons _ _ _ j js v vs hone hrest =>
      exact .cons (hfits ty (by simp) j v (hjs j (by simp)) hone)
        (ih (fun t ht => hfits t (by simp [ht])) (fun k hk => hjs k (by simp [hk])) hrest)

lemma fitAll_replicate {item : Ty}
    (hfits : ∀ j v, j.ArraysBelow (2 ^ 256) → Denotes item .decimal j v → Fits item v)
    {items : List Json} (hitems : ∀ j ∈ items, j.ArraysBelow (2 ^ 256)) {vs : List Value}
    (h : DenoteAll (List.replicate items.length item) .decimal items vs) :
    vs.length = items.length ∧ FitAll (List.replicate vs.length item) vs := by
  have hlen : vs.length = items.length := (denoteAll_replicate_iff.mp h).length_eq.symm
  refine ⟨hlen,?_⟩
  rw [hlen]
  exact fitAll_of_denoteAll (fun ty hty => List.eq_of_mem_replicate hty ▸ hfits) hitems h

/-- What an argument denotes belongs to the type. -/
theorem fits_of_denotes {ty : Ty} {r : Radix} {j : Json} {v : Value}
    (hj : j.ArraysBelow (2 ^ 256)) (h : Denotes ty r j v) : Fits ty v := by
  induction ty using Ty.nested_induction generalizing r j v with
  | address =>
    cases h with
    | address _ hsize => exact .address hsize
  | bool =>
    cases h with
    | bool => exact .bool
  | uint bits =>
    cases h with
    | uint _ hlo hhi => exact .uint hlo hhi
  | int bits =>
    cases h with
    | int _ hlo hhi => exact .int hlo hhi
  | fixedBytes size =>
    cases h with
    | fixedBytes _ hsize =>
      apply Fits.fixedBytes
      rw [List.length_append, List.length_replicate]
      omega
  | bytes =>
    cases h with
    | bytes => exact .bytes
  | string =>
    cases h with
    | string => exact .string
  | array item ih =>
    cases h with
    | array hall =>
      obtain ⟨hcount,hitems⟩ := hj
      obtain ⟨hlen,hfit⟩ :=
        fitAll_replicate (fun _ _ => ih) (Json.itemsBelow_iff.mp hitems) hall
      exact .array (hlen ▸ hcount) hfit
  | fixedArray item size ih =>
    cases h with
    | fixedArray hsize hall =>
      obtain ⟨hlen,hfit⟩ :=
        fitAll_replicate (fun _ _ => ih) (Json.itemsBelow_iff.mp hj.2) hall
      exact .fixedArray (hlen.trans hsize) hfit
  | tuple fields ih =>
    cases h with
    | tuple hgiven hall =>
      refine .tuple (fitAll_of_denoteAll ?_ (hgiven.arraysBelow hj) hall)
      intro ty hty _ _
      obtain ⟨f,hf,rfl⟩ := List.mem_map.mp hty
      exact ih f hf

end Abi.Value

namespace Abi

open Value

lemma exists_of_encodeArguments {inputs : List Param} {args : List Json} {data : List UInt8}
    (h : encodeArguments inputs args = .ok data) :
    inputs.length = args.length ∧ ∃ tys vs, inputs.mapM Ty.ofParam = .ok tys ∧
      ofArgs tys args = .ok vs ∧ encodeSequence tys vs = data := by
  unfold encodeArguments at h
  split_ifs at h with harity
  · cases h
  · obtain ⟨tys,htys,h⟩ := Result.bind_eq_ok_iff.mp h
    obtain ⟨vs,hvs,h⟩ := Result.bind_eq_ok_iff.mp h
    exact ⟨not_not.mp harity,tys,vs,htys,hvs,Except.ok.inj h⟩

/-- Encoded arguments are read back as the values that the arguments denote, with texts as their
bytes. The bounds are those of offsets and counts, which have one word each. -/
theorem decodeSequence_encodeArguments {inputs : List Param} {args : List Json}
    {data : List UInt8} (h : encodeArguments inputs args = .ok data)
    (hlen : data.length < 2 ^ 256) (hargs : ∀ j ∈ args, j.ArraysBelow (2 ^ 256)) :
    ∃ tys vs, inputs.mapM Ty.ofParam = .ok tys ∧
      (∀ ws, DenoteAll tys .hex args ws ↔ ws = vs) ∧
      decodeSequence tys data = some (vs.map contents) := by
  obtain ⟨harity,tys,vs,htys,hvs,rfl⟩ := exists_of_encodeArguments h
  have hparams := Result.mapM_eq_ok_iff.mp htys
  have hcount : args.length = tys.length := harity.symm.trans hparams.length_eq
  have hdenote : DenoteAll tys .hex args vs := (ofArgs_eq_ok_iff hcount).mp hvs
  have hwell : ∀ ty ∈ tys, ty.WellFormed :=
    ((List.forall₂_and_left tys inputs).mp
      (hparams.flip.imp fun _ p hp => ⟨Ty.wellFormed_of_ofParam p hp,hp⟩)).1
  have hfit : FitAll tys vs :=
    fitAll_of_denoteAll (fun _ _ _ _ => fits_of_denotes) hargs hdenote
  refine ⟨tys,vs,htys,?_,decodeSequence_encodeSequence hfit hwell hlen⟩
  intro ws
  rw [← ofArgs_eq_ok_iff hcount, hvs, Except.ok.injEq, eq_comm]

/-- A tuple given by name, and an integer text that means 10 in it and 16 beside it. -/
theorem decodeSequence_encodeArguments_named :
    let inputs : List Param :=
      [⟨"cfg","tuple",[⟨"id","uint8",[]⟩,⟨"notes","string[]",[]⟩]⟩,⟨"n","uint8",[]⟩]
    let args : List Json := [.obj [("notes",.arr [.str "a"]),("id",.str "10")],.str "10"]
    let data := word 64 ++ word 16 ++ word 10 ++ word 64 ++ word 1 ++ word 32 ++
      withLength [97]
    encodeArguments inputs args = .ok data ∧ data.length < 2 ^ 256 ∧
      (∀ j ∈ args, j.ArraysBelow (2 ^ 256)) ∧
      ∃ tys vs, inputs.mapM Ty.ofParam = .ok tys ∧
        (∀ ws, DenoteAll tys .hex args ws ↔ ws = vs) ∧
        decodeSequence tys data = some (vs.map contents) := by
  intro inputs args data
  have hok : encodeArguments inputs args = .ok data :=
    Result.eq_ok_of_toOption (by decide +kernel)
  have hlen : data.length < 2 ^ 256 := by
    simp [data, paddedSize]
  have hargs : ∀ j ∈ args, j.ArraysBelow (2 ^ 256) := by
    simp [args, Json.ArraysBelow, Json.ItemsBelow, Json.MembersBelow]
  exact ⟨hok,hlen,hargs,decodeSequence_encodeArguments hok hlen hargs⟩

end Abi

end DeployCheck
