import Mathlib.Data.List.Nodup
import Mathlib.Logic.Relation

/-! Breadth-first orders of graphs whose places list their successors. An order goes layer by layer,
and every place stands where it is first named. -/
namespace DeployCheck.Repository

variable {α : Type} [DecidableEq α]

/-- The members of a list that are not seen before, each where it is first named. -/
def unseen (seen : List α) : List α → List α
  | [] => []
  | a :: rest => if a ∈ seen then unseen seen rest else a :: unseen (seen ++ [a]) rest

/-- An order that begins with a layer and goes on with what the layer names, as far as it is not
seen before, until a layer is empty. -/
inductive Layered (next : α → List α) : List α → List α → List α → Prop
  | done (seen : List α) : Layered next seen [] []
  | layer {seen layer rest : List α}
    (tail : Layered next (seen ++ layer) (unseen (seen ++ layer) (layer.flatMap next)) rest) :
    Layered next seen layer (layer ++ rest)

/-- The places that can be reached from `start`, in the order of a breadth-first search. -/
abbrev BreadthFirst (next : α → List α) (start : α) (order : List α) : Prop :=
  Layered next [] [start] order

/-- The places that successors lead to. -/
abbrev Reaches (next : α → List α) : α → α → Prop :=
  Relation.ReflTransGen fun a b => b ∈ next a

section Unseen

variable {seen : List α} {a : α}

@[simp] lemma unseen_nil : unseen seen [] = [] := rfl

lemma unseen_cons_of_mem (h : a ∈ seen) (as : List α) : unseen seen (a :: as) = unseen seen as :=
  if_pos h

lemma unseen_cons_of_not_mem (h : a ∉ seen) (as : List α) :
    unseen seen (a :: as) = a :: unseen (seen ++ [a]) as := if_neg h

lemma mem_unseen {as : List α} : a ∈ unseen seen as ↔ a ∈ as ∧ a ∉ seen := by
  induction as generalizing seen with
  | nil => simp
  | cons b as ih =>
    by_cases hb : b ∈ seen
    · rw [unseen_cons_of_mem hb, ih, List.mem_cons]
      constructor
      · rintro ⟨hmem,hnew⟩
        exact ⟨.inr hmem,hnew⟩
      · rintro ⟨rfl | hmem,hnew⟩
        · exact absurd hb hnew
        · exact ⟨hmem,hnew⟩
    · rw [unseen_cons_of_not_mem hb, List.mem_cons, ih, List.mem_cons, List.mem_append,
        List.mem_singleton]
      constructor
      · rintro (rfl | ⟨hmem,hnew⟩)
        · exact ⟨.inl rfl,hb⟩
        · exact ⟨.inr hmem,fun h => hnew (.inl h)⟩
      · rintro ⟨rfl | hmem,hnew⟩
        · exact .inl rfl
        · by_cases hab : a = b
          · exact .inl hab
          · exact .inr ⟨hmem,not_or.mpr ⟨hnew,hab⟩⟩

lemma nodup_unseen (seen as : List α) : (unseen seen as).Nodup := by
  induction as generalizing seen with
  | nil => simp
  | cons b as ih =>
    by_cases hb : b ∈ seen
    · rw [unseen_cons_of_mem hb]
      exact ih seen
    · rw [unseen_cons_of_not_mem hb]
      refine List.nodup_cons.mpr ⟨fun h => ?_,ih _⟩
      exact (mem_unseen.mp h).2 (by simp)

lemma unseen_append (seen as bs : List α) :
    unseen seen (as ++ bs) = unseen seen as ++ unseen (seen ++ unseen seen as) bs := by
  induction as generalizing seen with
  | nil => simp
  | cons a as ih =>
    by_cases ha : a ∈ seen
    · rw [List.cons_append, unseen_cons_of_mem ha, unseen_cons_of_mem ha, ih]
    · rw [List.cons_append, unseen_cons_of_not_mem ha, unseen_cons_of_not_mem ha, ih]
      simp

lemma unseen_eq_self {as : List α} (hnodup : as.Nodup) (hnew : ∀ a ∈ as, a ∉ seen) :
    unseen seen as = as := by
  induction as generalizing seen with
  | nil => rfl
  | cons a as ih =>
    obtain ⟨ha,hrest⟩ := List.nodup_cons.mp hnodup
    rw [List.forall_mem_cons] at hnew
    rw [unseen_cons_of_not_mem hnew.1, ih hrest]
    intro b hb
    rw [List.mem_append, List.mem_singleton]
    rintro (hseen | rfl)
    · exact hnew.2 b hb hseen
    · exact ha hb

lemma unseen_eq_nil {as : List α} (h : ∀ a ∈ as, a ∈ seen) : unseen seen as = [] :=
  List.eq_nil_iff_forall_not_mem.mpr fun a ha =>
    (mem_unseen.mp ha).2 (h a (mem_unseen.mp ha).1)

/-- What is seen already can be left out before. -/
lemma unseen_filter {keep : α → Bool} {as : List α} (hkeep : ∀ a, a ∉ seen → keep a = true) :
    unseen seen (as.filter keep) = unseen seen as := by
  induction as generalizing seen with
  | nil => rfl
  | cons a as ih =>
    by_cases ha : a ∈ seen
    · rw [unseen_cons_of_mem ha, ← ih hkeep, List.filter_cons]
      split
      · exact unseen_cons_of_mem ha _
      · rfl
    · rw [List.filter_cons_of_pos (hkeep a ha), unseen_cons_of_not_mem ha,
        unseen_cons_of_not_mem ha, ih]
      intro b hb
      exact hkeep b fun h => hb (List.mem_append_left _ h)

/-- So can places whose successors are all seen. -/
lemma unseen_flatMap_filter {next : α → List α} {keep : α → Bool} {as : List α}
    (hkeep : ∀ a, keep a = false → ∀ b ∈ next a, b ∈ seen) :
    unseen seen ((as.filter keep).flatMap next) = unseen seen (as.flatMap next) := by
  induction as generalizing seen with
  | nil => rfl
  | cons a as ih =>
    rw [List.flatMap_cons, unseen_append]
    cases ha : keep a with
    | true =>
      rw [List.filter_cons_of_pos ha, List.flatMap_cons, unseen_append, ih]
      intro c hc b hb
      exact List.mem_append_left _ (hkeep c hc b hb)
    | false =>
      rw [List.filter_cons_of_neg (by simp [ha]), unseen_eq_nil (hkeep a ha), List.append_nil,
        List.nil_append, ih hkeep]

/-- Without the places of a set, an unseen part is the part not seen with them. -/
lemma filter_unseen {seen' within as : List α}
    (hseen : ∀ a, a ∈ seen' ↔ a ∈ within ∨ a ∈ seen) :
    (unseen seen as).filter (fun a => a ∉ within) = unseen seen' as := by
  induction as generalizing seen seen' with
  | nil => rfl
  | cons a as ih =>
    by_cases ha : a ∈ seen
    · rw [unseen_cons_of_mem ha, unseen_cons_of_mem ((hseen a).mpr (.inr ha)), ih hseen]
    · rw [unseen_cons_of_not_mem ha]
      by_cases hw : a ∈ within
      · rw [List.filter_cons_of_neg (by simpa using hw),
          unseen_cons_of_mem ((hseen a).mpr (.inl hw)), ih]
        intro b
        rw [hseen, List.mem_append, List.mem_singleton]
        constructor
        · rintro (h | h)
          · exact .inl h
          · exact .inr (.inl h)
        · rintro (h | h | rfl)
          · exact .inl h
          · exact .inr h
          · exact .inl hw
      · have ha' : a ∉ seen' := fun h => ((hseen a).mp h).elim hw ha
        rw [List.filter_cons_of_pos (by simpa using hw), unseen_cons_of_not_mem ha', ih]
        intro b
        rw [List.mem_append, List.mem_append, hseen, or_assoc]

end Unseen

namespace Layered

variable {next : α → List α} {seen layer order : List α} {a b : α}

lemma of_nil (h : Layered next seen [] order) : order = [] := by
  generalize hempty : ([] : List α) = layer at h
  induction h with
  | done => rfl
  | layer _ ih =>
    subst hempty
    exact ih rfl

theorem unique {other : List α} (h : Layered next seen layer order)
    (hother : Layered next seen layer other) : order = other := by
  induction h generalizing other with
  | done => exact hother.of_nil.symm
  | layer tail ih =>
    cases hother with
    | done => exact tail.of_nil
    | layer tail' => exact congrArg _ (ih tail')

/-- An order names no place twice and none that is seen before. -/
theorem nodup (h : Layered next seen layer order) (hlayer : layer.Nodup)
    (hnew : ∀ a ∈ layer, a ∉ seen) : order.Nodup ∧ ∀ a ∈ order, a ∉ seen := by
  induction h with
  | done => simp
  | layer _ ih =>
    obtain ⟨hrest,hrestnew⟩ := ih (nodup_unseen _ _) fun a ha => (mem_unseen.mp ha).2
    constructor
    · refine List.nodup_append'.mpr ⟨hlayer,hrest,fun a ha hrest => ?_⟩
      exact hrestnew a hrest (List.mem_append_right _ ha)
    · intro a ha
      rcases List.mem_append.mp ha with ha | ha
      · exact hnew a ha
      · exact fun h => hrestnew a ha (List.mem_append_left _ h)

/-- Successors of what an order names, or of what is seen before, are named or seen. -/
theorem closed (h : Layered next seen layer order)
    (hseen : ∀ a ∈ seen, ∀ b ∈ next a, b ∈ seen ++ layer) :
    ∀ a ∈ seen ++ order, ∀ b ∈ next a, b ∈ seen ++ order := by
  induction h with
  | done => simpa using hseen
  | @layer seen layer rest _ ih =>
    rw [← List.append_assoc]
    refine ih fun a ha b hb => ?_
    by_cases hold : b ∈ seen ++ layer
    · exact List.mem_append_left _ hold
    · refine List.mem_append_right _ (mem_unseen.mpr ⟨?_,hold⟩)
      rcases List.mem_append.mp ha with ha | ha
      · exact absurd (hseen a ha b hb) hold
      · exact List.mem_flatMap.mpr ⟨a,ha,hb⟩

theorem exists_reaches (h : Layered next seen layer order) (ha : a ∈ order) :
    ∃ b ∈ layer, Reaches next b a := by
  induction h with
  | done => simp at ha
  | layer _ ih =>
    rcases List.mem_append.mp ha with ha | ha
    · exact ⟨a,ha,.refl⟩
    · obtain ⟨b,hb,hreach⟩ := ih ha
      obtain ⟨c,hc,hbc⟩ := List.mem_flatMap.mp (mem_unseen.mp hb).1
      exact ⟨c,hc,.head hbc hreach⟩

/-- Without the places of a closed set, an order is the one of those who have seen the set. -/
theorem filter {seen' within : List α} (h : Layered next seen layer order)
    (hwithin : ∀ a ∈ within, ∀ b ∈ next a, b ∈ within)
    (hseen : ∀ a, a ∈ seen' ↔ a ∈ within ∨ a ∈ seen) :
    Layered next seen' (layer.filter fun a => a ∉ within) (order.filter fun a => a ∉ within) := by
  induction h generalizing seen' with
  | done => exact .done _
  | @layer seen layer rest _ ih =>
    rw [List.filter_append]
    have hboth : ∀ a, a ∈ seen' ++ layer.filter (fun a => a ∉ within) ↔
        a ∈ within ∨ a ∈ seen ++ layer := by
      intro a
      rw [List.mem_append, List.mem_filter, List.mem_append, hseen, decide_eq_true_iff]
      tauto
    refine .layer ?_
    rw [unseen_flatMap_filter, ← filter_unseen hboth]
    · exact ih hboth
    · intro a ha b hb
      have hmem : a ∈ within := by simpa using ha
      exact (hboth b).mpr (.inl (hwithin a hmem b hb))

end Layered

namespace BreadthFirst

variable {next : α → List α} {start : α} {order : List α}

theorem nodup (h : BreadthFirst next start order) : order.Nodup :=
  (Layered.nodup h (List.nodup_singleton _) (by simp)).1

/-- A breadth-first order names just the places that can be reached. -/
theorem mem_iff (h : BreadthFirst next start order) {a : α} :
    a ∈ order ↔ Reaches next start a := by
  constructor
  · intro ha
    obtain ⟨b,hb,hreach⟩ := Layered.exists_reaches h ha
    rwa [← List.mem_singleton.mp hb]
  · intro hreach
    induction hreach with
    | refl =>
      cases h with
      | layer => simp
    | @tail b c _ hbc ih => simpa using Layered.closed h (by simp) b (by simpa using ih) c hbc

/-- Whoever has seen a closed set sees the rest in the same order. -/
theorem eq_filter {within more : List α} (h : BreadthFirst next start order)
    (hwithin : ∀ a ∈ within, ∀ b ∈ next a, b ∈ within)
    (hmore : Layered next within (unseen within [start]) more) :
    more = order.filter fun a => a ∉ within := by
  refine hmore.unique ?_
  have hstart : unseen [] [start] = [start] := unseen_eq_self (List.nodup_singleton _) (by simp)
  have hseen : ∀ a, a ∈ within ↔ a ∈ within ∨ a ∈ ([] : List α) := by simp
  rw [← filter_unseen hseen, hstart]
  exact Layered.filter h hwithin hseen

end BreadthFirst

end DeployCheck.Repository
