import DeployCheck.LineDiff.Unified
import DeployCheck.Proofs.Text.LineReading

/-! What hunks change. Hunks that lead from one text to another hold lines of both, and where there
are none the texts are equal. Any differ can be taken to find them. -/
namespace DeployCheck.LineDiff

namespace Leads

variable {b a : Nat} {old new : List String} {hs : List Hunk}

/-- Without hunks nothing changes. -/
theorem eq_of_nil (h : Leads b a old new []) : old = new := by
  cases h
  rfl

/-- What hunks remove and add are lines of the two texts. -/
theorem mem_of_mem (h : Leads b a old new hs) :
    ∀ hunk ∈ hs, (∀ line ∈ hunk.removed, line ∈ old) ∧ ∀ line ∈ hunk.added, line ∈ new := by
  induction h with
  | kept => simp
  | change _ _ _ _ _ _ ih =>
    refine List.forall_mem_cons.mpr ⟨⟨?_,?_⟩,fun hunk hhunk => ⟨?_,?_⟩⟩
    · intro line hline
      simp [hline]
    · intro line hline
      simp [hline]
    · intro line hline
      simp [(ih hunk hhunk).1 line hline]
    · intro line hline
      simp [(ih hunk hhunk).2 line hline]

end Leads

/-- How many lines hunks remove and add. -/
def changedLines : List Hunk → Nat
  | [] => 0
  | h :: hs => h.removed.length + h.added.length + changedLines hs

/-- The count of a diff is that of its hunks. -/
theorem changed_ofHunks (hs : List Hunk) : (Stats.ofHunks hs).changed = changedLines hs := by
  unfold Stats.ofHunks Stats.changed
  induction hs with
  | nil => rfl
  | cons h hs ih =>
    simp only [changedLines, List.flatMap_cons, List.length_append, ← ih]
    omega

theorem changed_compare (context : Nat) (old new : String) (differ : Differ) :
    (compare context old new differ).stats.changed = changedLines (differ.between old new) :=
  changed_ofHunks _

theorem Leads.changedLines_eq_zero_iff {b a : Nat} {old new : List String} {hs : List Hunk}
    (h : Leads b a old new hs) : changedLines hs = 0 ↔ hs = [] := by
  cases h with
  | kept => simp [changedLines]
  | change _ _ _ _ changes _ =>
    simp only [changedLines, reduceCtorEq, iff_false]
    rcases changes with hne | hne <;>
    · have := List.length_pos_iff.mpr hne
      omega

/-- Hunks may keep one line where others keep two. -/
example : Leads 0 0 ["u\n", "a\n", "a\n"] ["a\n", "a\n", "u\n"]
    [⟨0, 0, [], ["a\n", "a\n"]⟩, ⟨1, 3, ["a\n", "a\n"], []⟩] :=
  .change [] ⟨0, 0, [], ["a\n", "a\n"]⟩ rfl rfl (.inr (by decide))
    (.change ["u\n"] ⟨1, 3, ["a\n", "a\n"], []⟩ rfl rfl (.inl (by decide)) (.kept 3 3 []))

namespace Differ

variable (d : Differ)

theorem leads_between (old new : String) :
    Leads 0 0 (Text.linesOf old) (Text.linesOf new) (d.between old new) :=
  d.leads _ _

theorem between_eq_nil_iff (old new : String) : d.between old new = [] ↔ old = new := by
  constructor
  · intro h
    have hleads := d.leads_between old new
    rw [h] at hleads
    exact Text.linesOf_injective hleads.eq_of_nil
  · rintro rfl
    exact d.hunks_self _

/-- What a differ finds between two texts: both are cut into lines, and the hunks that it gives for
these lead from the lines of the one to those of the other. -/
inductive Finds (old new : String) (hs : List Hunk) : Prop
  | intro {oldLines newLines : List String} (old_cut : Text.CutInto old oldLines)
    (new_cut : Text.CutInto new newLines) (hunks : d.hunks oldLines newLines = hs)
    (leads : Leads 0 0 oldLines newLines hs)

theorem finds_between (old new : String) : d.Finds old new (d.between old new) :=
  .intro (Text.linesOf_eq_iff.mp rfl) (Text.linesOf_eq_iff.mp rfl) rfl (d.leads_between old new)

/-- Whichever lines a differ takes for changed, there is none exactly between equal texts. -/
theorem Finds.changedLines_eq_zero_iff {d : Differ} {old new : String} {hs : List Hunk}
    (h : d.Finds old new hs) : changedLines hs = 0 ↔ old = new := by
  obtain ⟨hold,hnew,rfl,hleads⟩ := h
  rw [hleads.changedLines_eq_zero_iff, ← Text.linesOf_eq_iff.mpr hold,
    ← Text.linesOf_eq_iff.mpr hnew]
  exact d.between_eq_nil_iff old new

end Differ

end DeployCheck.LineDiff
