import DeployCheck.Proofs.LineDiff.Contents
import DeployCheck.Proofs.LineDiff.Replay

/-! Diffs as patches. Replaying the diff of two texts on the old one gives the new one, and the
counts of a diff are those of its marked lines. The first header may name a start that lies too far
behind, by as many lines as the first block shows more than its context; it has to be lowered
first. -/
namespace DeployCheck.LineDiff

open Text

/-- How far the first header's starts lie behind the first line that its block shows. -/
def misplacement (context : Nat) : List Hunk → Nat
  | [] => 0
  | h :: _ => if 2 * context < h.beforeStart then 0 else h.beforeStart - context

/-- Lowers the starts of the first header. -/
def lowerFirst (k : Nat) : List Line → List Line
  | .header b m a n :: ls => .header (b - k) m (a - k) n :: ls
  | ls => ls

/-- Replays a diff on the lines of a text, the first header's starts being lowered. -/
def patch? (k : Nat) (diff text : String) : Option (List String) :=
  (read? diff).bind fun ls => replay 0 0 0 0 (linesOf text) (lowerFirst k ls)

@[simp] lemma lowerFirst_zero (ls : List Line) : lowerFirst 0 ls = ls := by
  cases ls with
  | nil => rfl
  | cons l ls => cases l <;> rfl

lemma lowerFirst_map_closed (k : Nat) (ls : List Line) :
    lowerFirst k (ls.map Line.closed) = (lowerFirst k ls).map Line.closed := by
  cases ls with
  | nil => rfl
  | cons l ls => cases l <;> rfl

namespace Block

variable {context : Nat} {old : List String} {b : Block} {hs : List Hunk}

/-- The same block with later starts. -/
def raise (k : Nat) (b : Block) : Block :=
  { b with beforeStart := b.beforeStart + k, afterStart := b.afterStart + k }

@[simp] lemma position_raise (k : Nat) : (b.raise k).position = b.position := rfl

lemma lines_append_ne_nil_of_ne_nil (hne : b.lines ≠ []) (h : Hunk) :
    (b.append old h).lines ≠ [] := by
  simp [append, hne]

lemma lowerFirst_finish (k : Nat) (hne : b.lines ≠ []) (ls : List Line) :
    lowerFirst k ((b.raise k).finish context old ++ ls) = b.finish context old ++ ls := by
  have hb : b.beforeStart + k + 1 - k = b.beforeStart + 1 := by omega
  have ha : b.afterStart + k + 1 - k = b.afterStart + 1 := by omega
  simp [finish, raise, hne, lowerFirst, hb, ha]

/-- Starts show in the first header only. -/
theorem lowerFirst_print (k : Nat) (hne : b.lines ≠ []) :
    lowerFirst k (print context old (b.raise k) hs) = print context old b hs := by
  induction hs generalizing b with
  | nil => simpa [print] using lowerFirst_finish k hne []
  | cons h hs ih =>
    rw [print, print, position_raise]
    split
    · exact lowerFirst_finish k hne _
    · exact ih (lines_append_ne_nil_of_ne_nil hne h)

/-- The block that starts with the first lines of both texts. -/
def origin : Block := ⟨0, 0, 0, 0, 0, []⟩

lemma covers_origin (old : List String) : origin.Covers old where
  body := by simp [origin]
  inside := Nat.zero_le _
  position := rfl
  before := rfl
  beforeLength := rfl
  afterLength := rfl

end Block

/-- Lowered headers are those of blocks that start where they say: far from the first line, or with
it. -/
lemma lowerFirst_unifiedLines (context : Nat) (old : List String) {h : Hunk} (hs : List Hunk)
    (hstarts : h.afterStart = h.beforeStart)
    (hne : (Block.origin.append old h).lines ≠ []) :
    lowerFirst (misplacement context (h :: hs)) (unifiedLines context old (h :: hs)) =
      if 2 * context < h.beforeStart then
        Block.print context old ((Block.start context h).append old h) hs
      else Block.print context old (Block.origin.append old h) hs := by
  have hblock : { Block.start context h with position := 0 } =
      Block.origin.raise (h.beforeStart - context) := by
    simp [Block.start, Block.origin, Block.raise, hstarts]
  have hposition : h.beforeStart - (Block.origin.raise (h.beforeStart - context)).position =
      h.beforeStart := rfl
  rw [unifiedLines, hblock, Block.print, misplacement, hposition]
  by_cases hfar : 2 * context < h.beforeStart
  · rw [if_pos hfar, if_pos hfar, if_pos hfar, lowerFirst_zero]
    rfl
  · rw [if_neg hfar, if_neg hfar, if_neg hfar]
    exact Block.lowerFirst_print _ hne

/-- The printed hunks, replayed, turn the old lines into the new ones. -/
theorem replay_unifiedLines (context : Nat) {old new : List String} {hs : List Hunk}
    (hleads : Leads 0 0 old new hs) :
    ∃ lines, replay 0 0 0 0 old
        (lowerFirst (misplacement context hs) ((unifiedLines context old hs).map Line.closed)) =
          some lines ∧ List.Forall₂ Agrees lines new := by
  rw [lowerFirst_map_closed]
  cases hleads with
  | kept => exact ⟨old,rfl,agrees_refl old⟩
  | @change _ _ rest new hs kept h hstart hafter hchanges hrest =>
    have horigin : (Block.origin.append (kept ++ (h.removed ++ rest)) h).lines ≠ [] :=
      Block.lines_append_ne_nil (b := .origin) rfl hstart hchanges
    have hreplays := Block.replays context (kept ++ (h.removed ++ rest)) hs
    rw [lowerFirst_unifiedLines context _ hs (hafter.trans hstart.symm) horigin]
    split
    · next hfar =>
      obtain ⟨lines,hreplay,hagree⟩ := hreplays.start (p := 0) (a := 0) rfl (Nat.zero_le _) hstart
        hafter (by omega) hchanges hrest
      exact ⟨_,hreplay,agrees_hunk kept h.added hagree⟩
    · obtain ⟨lines,hreplay,hagree⟩ := hreplays (p := 0) (a := 0)
        ((Block.covers_origin _).append rfl hstart) horigin (Nat.add_zero 0).symm
        (Nat.add_zero 0).symm
        (Block.leads_append rfl hstart hafter hrest)
      rw [Block.newSide_lines_append rfl hstart] at hreplay
      exact ⟨kept ++ (h.added.map ended ++ lines),by simpa [Block.origin, newSide] using hreplay,
        agrees_hunk kept h.added hagree⟩

/-! ## Diffs of texts -/

section Texts

variable {old new : String} {hs : List Hunk}

lemma isSingle_unifiedLines (context : Nat) (hleads : Leads 0 0 (linesOf old) (linesOf new) hs) :
    ∀ l ∈ unifiedLines context (linesOf old) hs, l.IsSingle :=
  forall_mem_unifiedLines {
    header := fun _ _ _ _ => .inr (by simp [Line.content])
    context := (cut_linesOf old).isEnded_or_not_mem
    removed := fun h hh line hline =>
      (cut_linesOf old).isEnded_or_not_mem line ((hleads.mem_of_mem h hh).1 line hline)
    added := fun h hh line hline =>
      (cut_linesOf new).isEnded_or_not_mem line ((hleads.mem_of_mem h hh).2 line hline) }

variable (hleads : Leads 0 0 (linesOf old) (linesOf new) hs)
include hleads

lemma countMarked_ofHunks (context : Nat) {mark : Char} (hheader : '@' ≠ mark)
    (hcontext : ' ' ≠ mark) :
    countMarked mark (Diff.ofHunks context old hs).unified =
      (hs.flatMap Hunk.lines).countP fun l => l.mark == mark := by
  rw [Diff.ofHunks, countMarked_printed _ (isSingle_unifiedLines context hleads)]
  exact countP_unifiedLines (by simpa [Line.mark] using hheader) (by simpa [Line.mark] using hcontext)

lemma countMarked_removed (context : Nat) :
    countMarked '-' (Diff.ofHunks context old hs).unified =
      (Diff.ofHunks context old hs).stats.removed := by
  change _ = (hs.flatMap (·.removed)).length
  rw [countMarked_ofHunks hleads context (by decide) (by decide)]
  refine countP_flatMap_lines fun h => ?_
  simp [Hunk.lines, Line.mark, List.countP_map, Function.comp_def]

lemma countMarked_added (context : Nat) :
    countMarked '+' (Diff.ofHunks context old hs).unified =
      (Diff.ofHunks context old hs).stats.added := by
  change _ = (hs.flatMap (·.added)).length
  rw [countMarked_ofHunks hleads context (by decide) (by decide)]
  refine countP_flatMap_lines fun h => ?_
  simp [Hunk.lines, Line.mark, List.countP_map, Function.comp_def]

lemma changed_ofHunks_eq_zero_iff (context : Nat) :
    (Diff.ofHunks context old hs).stats.changed = 0 ↔ hs = [] := by
  rw [Diff.ofHunks, changed_ofHunks, hleads.changedLines_eq_zero_iff]

/-- A diff is empty exactly if it counts no change. -/
lemma changed_eq_zero_iff_unified (context : Nat) :
    (Diff.ofHunks context old hs).stats.changed = 0 ↔
      (Diff.ofHunks context old hs).unified = "" := by
  have hchanged := changed_ofHunks_eq_zero_iff hleads context
  constructor
  · intro h
    rw [hchanged.mp h]
    rfl
  · intro h
    have hadded := countMarked_added hleads context
    have hremoved := countMarked_removed hleads context
    rw [h] at hadded hremoved
    rw [Stats.changed, ← hadded, ← hremoved]
    rfl

/-- The printed diff, replayed on the old text, gives the lines of the new one. -/
lemma exists_patch (context : Nat) :
    ∃ lines, patch? (misplacement context hs) (Diff.ofHunks context old hs).unified old =
        some lines ∧ (lines = linesOf new ∨ lines = (linesOf new).map ended) := by
  obtain ⟨lines,hreplay,hagree⟩ := replay_unifiedLines context hleads
  refine ⟨lines,?_,eq_or_eq_map_ended (cut_linesOf new) hagree⟩
  rw [patch?, Diff.ofHunks, read?_printed (isSingle_unifiedLines context hleads), Option.bind_some,
    hreplay]

end Texts

/-- The diff of two texts explains how they differ, for any hunks that lead from the lines of the one
to those of the other: it can be replayed, its counts are those of its marked lines, and it is empty
exactly where nothing differs. -/
theorem patch_ofHunks (context : Nat) {old new : String} {hs : List Hunk}
    (hleads : Leads 0 0 (linesOf old) (linesOf new) hs) (hsame : old = new → hs = []) :
    (∃ lines, patch? (misplacement context hs) (Diff.ofHunks context old hs).unified old =
        some lines ∧ (lines = linesOf new ∨ lines = (linesOf new).map ended)) ∧
      (Diff.ofHunks context old hs).stats.removed =
        countMarked '-' (Diff.ofHunks context old hs).unified ∧
      (Diff.ofHunks context old hs).stats.added =
        countMarked '+' (Diff.ofHunks context old hs).unified ∧
      ((Diff.ofHunks context old hs).stats.changed = 0 ↔
        (Diff.ofHunks context old hs).unified = "") ∧
      ((Diff.ofHunks context old hs).unified = "" ↔ old = new) := by
  have hempty := changed_eq_zero_iff_unified hleads context
  refine ⟨exists_patch hleads context,(countMarked_removed hleads context).symm,
    (countMarked_added hleads context).symm,hempty,hempty.symm.trans ?_⟩
  refine (changed_ofHunks_eq_zero_iff hleads context).trans ⟨?_,hsame⟩
  rintro rfl
  exact linesOf_injective hleads.eq_of_nil

/-- Whichever lines a differ takes for changed, the diff that it leads to can be replayed. -/
theorem exists_patch_compare (context : Nat) (old new : String) (differ : Differ) :
    ∃ lines, patch? (misplacement context (differ.between old new))
        (compare context old new differ).unified old = some lines ∧
      (lines = linesOf new ∨ lines = (linesOf new).map ended) :=
  exists_patch (differ.leads_between old new) context

/-- As it is printed, a diff can be replayed where its first hunk has no more lines in front of it
than its context shows, or more than two contexts hold. -/
theorem exists_patch_as_printed {context : Nat} {old new : String} {hs : List Hunk}
    (hleads : Leads 0 0 (linesOf old) (linesOf new) hs)
    (hplaced : ∀ h ∈ hs.head?, h.beforeStart ≤ context ∨ 2 * context < h.beforeStart) :
    ∃ lines, patch? 0 (Diff.ofHunks context old hs).unified old = some lines ∧
      (lines = linesOf new ∨ lines = (linesOf new).map ended) := by
  have hshift : misplacement context hs = 0 := by
    cases hs with
    | nil => rfl
    | cons h hs =>
      have := hplaced h rfl
      rw [misplacement]
      split <;> omega
  have hpatch := exists_patch hleads context
  rwa [hshift] at hpatch

/-- A line that one text puts between those of the other. -/
theorem patch_compare_inserted : ∃ lines,
    patch? 1 (compare 1 "a\na\na\na\na\n" "a\na\nb\na\na\na\n").unified "a\na\na\na\na\n" =
        some lines ∧
      (lines = linesOf "a\na\nb\na\na\na\n" ∨
        lines = (linesOf "a\na\nb\na\na\na\n").map ended) := by
  have hshift : misplacement 1
      (Differ.shortest.between "a\na\na\na\na\n" "a\na\nb\na\na\na\n") = 1 := by
    decide +kernel
  have hpatch := (patch_ofHunks 1
    (Differ.shortest.leads_between "a\na\na\na\na\n" "a\na\nb\na\na\na\n")
    (Differ.shortest.between_eq_nil_iff _ _).mpr).1
  rwa [hshift] at hpatch

/-- As it is printed, the same diff puts the line in another place. -/
theorem patch_compare_misplaced : ∃ lines,
    patch? 0 (compare 1 "a\na\na\na\na\n" "a\na\nb\na\na\na\n").unified "a\na\na\na\na\n" =
        some lines ∧
      lines = ["a\n", "a\n", "a\n", "b\n", "a\n", "a\n"] ∧
      lines ≠ linesOf "a\na\nb\na\na\na\n" ∧
      lines ≠ (linesOf "a\na\nb\na\na\na\n").map ended :=
  ⟨["a\n", "a\n", "a\n", "b\n", "a\n", "a\n"],by decide +kernel,rfl,by decide +kernel,
    by decide +kernel⟩

end DeployCheck.LineDiff
