import DeployCheck.Text.Split
import Mathlib.Data.List.TakeWhile
import Mathlib.Tactic.Common

/-! Cuts of texts that were put together: between parts, in front of a mark, before an end and around
the whole. -/
namespace DeployCheck.Text

variable {c : Char} {cs : List Char}

/-! ## Parts -/

lemma split_append_cons (sep : Char) (cs ds : List Char) :
    split sep (cs ++ sep :: ds) = split sep cs ++ split sep ds := by
  induction cs with
  | nil => simp [split]
  | cons c cs ih =>
    by_cases hc : c = sep
    · simp [split, hc, ih]
    · obtain ⟨part,parts,hparts⟩ := List.exists_cons_of_ne_nil (split_ne_nil sep cs)
      simp [split, hc, ih, hparts]

lemma split_of_not_mem {sep : Char} {cs : List Char} (h : sep ∉ cs) : split sep cs = [cs] := by
  induction cs with
  | nil => rfl
  | cons c cs ih =>
    obtain ⟨hc,hrest⟩ := List.ne_and_not_mem_of_not_mem_cons h
    simp [split, Ne.symm hc, ih hrest]

lemma not_mem_afterLast (c : Char) (s : String) : c ∉ (afterLast c s).toList := by
  intro h
  have hmem : c ∈ s.toList.reverse.takeWhile (· != c) := by simpa [afterLast] using h
  simpa using List.mem_takeWhile_imp hmem

/-- The parts, each behind a separator, are the text behind a separator. -/
lemma flatMap_split (sep : Char) (cs : List Char) :
    ((split sep cs).flatMap fun part => sep :: part) = sep :: cs := by
  induction cs with
  | nil => rfl
  | cons c cs ih =>
    by_cases hc : c = sep
    · rw [split, if_pos hc, List.flatMap_cons, ih, hc]
      rfl
    · obtain ⟨part,parts,hparts⟩ := List.exists_cons_of_ne_nil (split_ne_nil sep cs)
      rw [hparts, List.flatMap_cons, List.cons_append, List.cons.injEq] at ih
      rw [split, if_neg hc, hparts]
      dsimp only
      rw [List.flatMap_cons, List.cons_append, List.cons_append, ih.2]

/-- The parts of a text, with a separator between them, are the text. -/
lemma intercalate_split (sep : Char) (cs : List Char) :
    List.intercalate [sep] (split sep cs) = cs := by
  induction cs with
  | nil => rfl
  | cons c cs ih =>
    obtain ⟨part,parts,hparts⟩ := List.exists_cons_of_ne_nil (split_ne_nil sep cs)
    rw [split]
    split
    · next hc =>
      rw [hparts, List.intercalate_cons_cons, ← hparts, ih, hc, List.nil_append,
        List.singleton_append]
    · rw [hparts]
      rw [hparts] at ih
      cases parts with
      | nil => simpa using ih
      | cons next parts =>
        rw [List.intercalate_cons_cons] at ih ⊢
        rw [← ih]
        simp

/-- Parts without a separator are those between its occurrences. -/
lemma split_flatMap {sep : Char} {parts : List (List Char)} (h : ∀ part ∈ parts, sep ∉ part) :
    split sep (parts.flatMap fun part => sep :: part) = [] :: parts := by
  induction parts with
  | nil => rfl
  | cons part parts ih =>
    obtain ⟨hpart,hparts⟩ := List.forall_mem_cons.mp h
    have hfirst : split sep (sep :: (part ++ parts.flatMap fun p => sep :: p)) =
        [] :: split sep (part ++ parts.flatMap fun p => sep :: p) := by
      simp [split]
    rw [List.flatMap_cons, List.cons_append, hfirst]
    cases parts with
    | nil => simp [split_of_not_mem hpart]
    | cons next parts =>
      rw [List.flatMap_cons, List.cons_append, split_append_cons, split_of_not_mem hpart]
      have htail := ih hparts
      rw [List.flatMap_cons, List.cons_append] at htail
      simp only [split, if_true, List.cons.injEq, true_and] at htail
      rw [htail, List.singleton_append]

lemma subset_of_mem_split {sep : Char} {part : List Char} (h : part ∈ split sep cs) :
    part ⊆ cs := by
  induction cs generalizing part with
  | nil =>
    obtain rfl : part = [] := by simpa [split] using h
    exact List.Subset.refl _
  | cons c cs ih =>
    unfold split at h
    split at h
    · rcases List.mem_cons.mp h with rfl | h
      · exact List.nil_subset _
      · exact List.subset_cons_of_subset _ (ih h)
    · obtain ⟨first,parts,hparts⟩ := List.exists_cons_of_ne_nil (split_ne_nil sep cs)
      rw [hparts] at h ih
      rcases List.mem_cons.mp h with rfl | h
      · exact List.cons_subset_cons _ (ih List.mem_cons_self)
      · exact List.subset_cons_of_subset _ (ih (List.mem_cons_of_mem _ h))

/-! ## Marks and ends -/

/-- A mark is searched for behind a text without its first character. -/
lemma upTo_append_of_not_mem {mark : List Char} (h : c ∉ cs) (ds : List Char) :
    upTo (c :: mark) (cs ++ ds) = cs ++ upTo (c :: mark) ds := by
  induction cs with
  | nil => rfl
  | cons d cs ih =>
    obtain ⟨hd,hcs⟩ := List.ne_and_not_mem_of_not_mem_cons h
    simp [upTo, after?, hd, ih hcs]

lemma upTo_cons_self (c : Char) (mark cs : List Char) : upTo (c :: mark) (c :: cs) =
    if (after? mark cs).isSome then [] else c :: upTo (c :: mark) cs := by
  simp [upTo, after?]

/-- What is appended gives no beginning to a text, unless it goes on with one of its characters. -/
lemma isSome_after?_append {lead ds : List Char} (h : ∀ d ∈ ds.head?, d ∉ lead) :
    (after? lead (cs ++ ds)).isSome = (after? lead cs).isSome := by
  induction lead generalizing cs with
  | nil => rfl
  | cons w lead ih =>
    cases cs with
    | nil =>
      cases ds with
      | nil => rfl
      | cons d ds =>
        have hd : w ≠ d := (List.ne_and_not_mem_of_not_mem_cons (h d rfl)).1.symm
        simp [after?, hd]
    | cons c cs =>
      have hrest : ∀ d ∈ ds.head?, d ∉ lead := fun d hd hmem => h d hd (List.mem_cons_of_mem _ hmem)
      by_cases hc : w = c
      · simp [after?, hc, ih hrest]
      · simp [after?, hc]

lemma withoutEnds_of_not_mem {tail : List Char} (h : c ∉ cs) : withoutEnds (c :: tail) cs = cs := by
  unfold withoutEnds
  split
  · rfl
  · next rest hrest =>
    rw [before?_eq_some_iff] at hrest
    simp [hrest] at h

lemma withoutEnds_append {tail : List Char} (hne : tail ≠ []) (cs : List Char) :
    withoutEnds tail (cs ++ tail) = withoutEnds tail cs := by
  rw [withoutEnds]
  split
  · next hnone =>
    rw [before?_eq_some_iff.mpr rfl] at hnone
    cases hnone
  · next rest hrest =>
    obtain rfl := List.append_cancel_right (before?_eq_some_iff.mp hrest)
    rw [dif_neg hne]

/-! ## Both ends -/

lemma getLast?_append_ne {ds : List Char} (hcs : cs.getLast? ≠ some c)
    (hds : ds.getLast? ≠ some c) : (cs ++ ds).getLast? ≠ some c := by
  rw [List.getLast?_append]
  cases h : ds.getLast? with
  | none => exact hcs
  | some d => rwa [h] at hds

lemma dropWhile_of_head?_ne (h : cs.head? ≠ some c) : cs.dropWhile (· == c) = cs := by
  cases cs with
  | nil => rfl
  | cons d cs => exact List.dropWhile_cons_of_neg (by simpa using h)

/-- A text without `c` at its ends is what is left when `c` stands around it. -/
theorem dropAround_replicate (hne : cs ≠ []) (hfirst : cs.head? ≠ some c)
    (hlast : cs.getLast? ≠ some c) (m n : Nat) :
    dropAround c (String.ofList (List.replicate m c ++ (cs ++ List.replicate n c))) =
      String.ofList cs := by
  have hdrop : ∀ k (ds : List Char), (List.replicate k c ++ ds).dropWhile (· == c) =
      ds.dropWhile (· == c) := fun k ds =>
    List.dropWhile_append_of_pos fun d hd => beq_iff_eq.mpr (List.eq_of_mem_replicate hd)
  have hhead : (cs ++ List.replicate n c).head? ≠ some c := by
    obtain ⟨d,cs,rfl⟩ := List.exists_cons_of_ne_nil hne
    exact hfirst
  unfold dropAround
  rw [String.toList_ofList, hdrop, dropWhile_of_head?_ne hhead, List.reverse_append,
    List.reverse_replicate, hdrop, dropWhile_of_head?_ne (by rwa [List.head?_reverse]),
    List.reverse_reverse]

/-- Nothing is left to drop around a text. -/
theorem dropAround_dropAround (c : Char) (s : String) :
    dropAround c (dropAround c s) = dropAround c s := by
  have hdropped : ∀ cs : List Char, (cs.dropWhile (· == c)).head? ≠ some c := by
    intro cs hhead
    have hnot := List.head?_dropWhile_not (· == c) cs
    rw [hhead] at hnot
    simp at hnot
  unfold dropAround
  generalize hfront : s.toList.dropWhile (· == c) = front
  have hhead : front.head? ≠ some c := hfront ▸ hdropped _
  -- what is dropped at the end leaves the first character, if it leaves any
  have hback : (front.reverse.dropWhile (· == c)).reverse.head? ≠ some c := by
    intro h
    have hfirst := List.reverse_prefix.mpr (List.dropWhile_suffix (l := front.reverse) (· == c))
    obtain ⟨rest,hrest⟩ := List.reverse_reverse front ▸ hfirst
    rw [← hrest, List.head?_append, h] at hhead
    exact hhead rfl
  rw [String.toList_ofList, dropWhile_of_head?_ne hback, List.reverse_reverse,
    dropWhile_of_head?_ne (hdropped _)]

end DeployCheck.Text
