import DeployCheck.Abi.Ty
import DeployCheck.Proofs.Result
import Mathlib.Tactic.Common

/-! Induction over nested types and parameters, and the sizes that a written type may have. -/
namespace DeployCheck.Abi

/-- Induction over nested types: the hypothesis for a tuple is about each of its fields. -/
@[elab_as_elim]
theorem Ty.nested_induction {motive : Ty → Prop} (address : motive .address)
    (bool : motive .bool) (uint : ∀ bits, motive (.uint bits)) (int : ∀ bits, motive (.int bits))
    (fixedBytes : ∀ size, motive (.fixedBytes size)) (bytes : motive .bytes)
    (string : motive .string) (array : ∀ item, motive item → motive (.array item))
    (fixedArray : ∀ item size, motive item → motive (.fixedArray item size))
    (tuple : ∀ fields, (∀ f ∈ fields, motive f.2) → motive (.tuple fields)) (ty : Ty) :
    motive ty := by
  refine @Ty.rec motive (fun fields => ∀ f ∈ fields, motive f.2) (fun f => motive f.2) address bool
    uint int fixedBytes bytes string array fixedArray tuple ?_ ?_ ?_ ty
  · simp
  · intro head tail hhead htail f hf
    rcases List.mem_cons.mp hf with rfl | hf
    · exact hhead
    · exact htail f hf
  · exact fun _ _ ih => ih

/-- Induction over parameters with their components. -/
@[elab_as_elim]
theorem Param.nested_induction {motive : Param → Prop}
    (mk : ∀ name kind components, (∀ p ∈ components, motive p) → motive ⟨name,kind,components⟩)
    (p : Param) : motive p := by
  refine @Param.rec motive (fun ps => ∀ p ∈ ps, motive p) mk ?_ ?_ p
  · simp
  · intro head tail hhead htail q hq
    rcases List.mem_cons.mp hq with rfl | hq
    · exact hhead
    · exact htail q hq

namespace Ty

mutual

/-- Widths and byte counts are those that a type can be written with. -/
def WellFormed : Ty → Prop
  | .uint bits | .int bits => 8 ≤ bits ∧ bits ≤ 256 ∧ bits % 8 = 0
  | .fixedBytes size => 1 ≤ size ∧ size ≤ 32
  | .array item | .fixedArray item _ => item.WellFormed
  | .tuple fields => FieldsWellFormed fields
  | _ => True

def FieldsWellFormed : List (String × Ty) → Prop
  | [] => True
  | (_, ty) :: rest => ty.WellFormed ∧ FieldsWellFormed rest

end

theorem fieldsWellFormed_iff (fields : List (String × Ty)) :
    FieldsWellFormed fields ↔ ∀ f ∈ fields, f.2.WellFormed := by
  induction fields with
  | nil => simp [FieldsWellFormed]
  | cons f rest ih => simp [FieldsWellFormed, ih]

lemma of_width?_eq_some {cs : List Char} {bits : Nat} (h : width? cs = some bits) :
    8 ≤ bits ∧ bits ≤ 256 ∧ bits % 8 = 0 := by
  simpa using (Option.filter_eq_some_iff.mp h).2

lemma of_byteCount?_eq_some {cs : List Char} {size : Nat} (h : byteCount? cs = some size) :
    1 ≤ size ∧ size ≤ 32 := by
  simpa using (Option.filter_eq_some_iff.mp h).2

lemma wellFormed_of_elementary? {cs : List Char} {ty : Ty} (h : elementary? cs = some ty) :
    ty.WellFormed := by
  unfold elementary? at h
  split_ifs at h
  iterate 6 (cases h; simp [WellFormed])
  simp only [Option.orElse_eq_orElse, Option.orElse_eq_or, Option.or_eq_some_iff,
    Option.map_eq_some_iff, Option.bind_eq_some_iff] at h
  rcases h with ⟨n,⟨_,-,hn⟩,rfl⟩ | ⟨-,⟨n,⟨_,-,hn⟩,rfl⟩ | ⟨-,n,⟨_,-,hn⟩,rfl⟩⟩
  · exact of_width?_eq_some hn
  · exact of_width?_eq_some hn
  · exact of_byteCount?_eq_some hn

lemma wellFormed_of_wrap {item ty : Ty} {suffix : Suffix} (hitem : item.WellFormed)
    (h : wrap item suffix = .ok ty) : ty.WellFormed := by
  unfold wrap at h
  split at h
  · cases h
    exact hitem
  · split at h
    · cases h
      exact hitem
    · simp at h

lemma wellFormed_of_foldlM_wrap {item ty : Ty} {suffixes : List Suffix} (hitem : item.WellFormed)
    (h : suffixes.foldlM wrap item = .ok ty) : ty.WellFormed := by
  induction suffixes generalizing item with
  | nil =>
    cases h
    exact hitem
  | cons suffix rest ih =>
    rw [List.foldlM_cons, Result.bind_eq_ok_iff] at h
    obtain ⟨array,hwrap,hrest⟩ := h
    exact ih (wellFormed_of_wrap hitem hwrap) hrest

lemma fieldsWellFormed_of_ofComponents {components : List Param} {fields : List (String × Ty)}
    (ih : ∀ p ∈ components, ∀ ty, ofParam p = .ok ty → ty.WellFormed)
    (h : ofComponents components = .ok fields) : FieldsWellFormed fields := by
  induction components generalizing fields with
  | nil =>
    cases h
    trivial
  | cons p rest ihrest =>
    rw [ofComponents] at h
    obtain ⟨ty,hp,h⟩ := Result.bind_eq_ok_iff.mp h
    obtain ⟨others,hrest,h⟩ := Result.bind_eq_ok_iff.mp h
    cases h
    exact ⟨ih p (by simp) ty hp,ihrest (fun q hq => ih q (by simp [hq])) hrest⟩

/-- A type that was read has sizes that it can be written with. -/
theorem wellFormed_of_ofParam (p : Param) {ty : Ty} (h : ofParam p = .ok ty) : ty.WellFormed := by
  induction p using Param.nested_induction generalizing ty with
  | mk name kind components ih =>
    rw [ofParam] at h
    obtain ⟨⟨base,suffixes⟩,-,h⟩ := Result.bind_eq_ok_iff.mp h
    simp only at h
    split at h
    · obtain ⟨item,hitem,h⟩ := Result.bind_eq_ok_iff.mp h
      obtain ⟨fields,hfields,rfl⟩ := Result.map_eq_ok_iff.mp hitem
      have htuple : (Ty.tuple fields).WellFormed :=
        fieldsWellFormed_of_ofComponents (fun q hq ty hty => ih q hq hty) hfields
      exact wellFormed_of_foldlM_wrap htuple h
    · split at h
      · next found hfound =>
        obtain ⟨item,hitem,h⟩ := Result.bind_eq_ok_iff.mp h
        cases hitem
        exact wellFormed_of_foldlM_wrap (wellFormed_of_elementary? hfound) h
      · cases h

end Ty

end DeployCheck.Abi
