import DeployCheck.LineDiff.Unified
import Mathlib.Data.List.Basic

/-! The lines of a diff. Each is a header, a line of the old text, or a line of a hunk, and those of
the hunks are all there. -/
namespace DeployCheck.LineDiff

variable {context : Nat} {old : List String} {b : Block} {hs : List Hunk}

/-- A property of all lines that a diff can have: headers, old lines, and the lines of its hunks. -/
structure OfParts (Q : Line → Prop) (old : List String) (hs : List Hunk) : Prop where
  header : ∀ b m a n, Q (.header b m a n)
  context : ∀ line ∈ old, Q (.context line)
  removed : ∀ h ∈ hs, ∀ line ∈ h.removed, Q (.removed line)
  added : ∀ h ∈ hs, ∀ line ∈ h.added, Q (.added line)

lemma OfParts.tail {Q : Line → Prop} {h : Hunk} (hQ : OfParts Q old (h :: hs)) : OfParts Q old hs :=
  ⟨hQ.header,hQ.context,(List.forall_mem_cons.mp hQ.removed).2,(List.forall_mem_cons.mp hQ.added).2⟩

lemma forall_mem_slice {Q : Line → Prop} (hQ : ∀ line ∈ old, Q (.context line)) (start stop : Nat) :
    ∀ l ∈ slice old start stop, Q l := by
  intro l hl
  obtain ⟨line,hline,rfl⟩ := List.mem_map.mp hl
  exact hQ line (List.mem_of_mem_take (List.mem_of_mem_drop hline))

lemma forall_mem_append {Q : Line → Prop} {h : Hunk} (hQ : OfParts Q old (h :: hs))
    (hblock : ∀ l ∈ b.lines, Q l) : ∀ l ∈ (b.append old h).lines, Q l := by
  simp only [Block.append, List.forall_mem_append, List.forall_mem_map]
  exact ⟨⟨⟨hblock,forall_mem_slice hQ.context _ _⟩,(List.forall_mem_cons.mp hQ.removed).1⟩,
    (List.forall_mem_cons.mp hQ.added).1⟩

lemma forall_mem_finish {Q : Line → Prop} (hQ : OfParts Q old hs) (hblock : ∀ l ∈ b.lines, Q l) :
    ∀ l ∈ b.finish context old, Q l := by
  unfold Block.finish
  split
  · simp
  · simp only [List.cons_append, List.forall_mem_cons, List.forall_mem_append]
    exact ⟨hQ.header _ _ _ _,hblock,forall_mem_slice hQ.context _ _⟩

theorem forall_mem_print {Q : Line → Prop} (hQ : OfParts Q old hs) (hblock : ∀ l ∈ b.lines, Q l) :
    ∀ l ∈ Block.print context old b hs, Q l := by
  induction hs generalizing b with
  | nil => exact forall_mem_finish hQ hblock
  | cons h hs ih =>
    rw [Block.print]
    split
    · exact List.forall_mem_append.mpr
        ⟨forall_mem_finish hQ hblock,ih hQ.tail (forall_mem_append hQ (by simp [Block.start]))⟩
    · exact ih hQ.tail (forall_mem_append hQ hblock)

theorem forall_mem_unifiedLines {Q : Line → Prop} (hQ : OfParts Q old hs) :
    ∀ l ∈ unifiedLines context old hs, Q l := by
  cases hs with
  | nil => simp [unifiedLines]
  | cons h hs => exact forall_mem_print hQ (by simp [Block.start])

/-- The lines that a diff shows of a hunk. -/
def Hunk.lines (h : Hunk) : List Line := h.removed.map .removed ++ h.added.map .added

variable {test : Line → Bool}

lemma countP_slice (htest : ∀ line, test (.context line) = false) (start stop : Nat) :
    (slice old start stop).countP test = 0 :=
  List.countP_eq_zero.mpr (forall_mem_slice (fun line _ => by simp [htest line]) start stop)

lemma countP_append (htest : ∀ line, test (.context line) = false) (h : Hunk) :
    (b.append old h).lines.countP test = b.lines.countP test + h.lines.countP test := by
  simp only [Block.append, List.countP_append, countP_slice htest, Hunk.lines]
  omega

lemma countP_finish (hheader : ∀ b m a n, test (.header b m a n) = false)
    (htest : ∀ line, test (.context line) = false) :
    (b.finish context old).countP test = b.lines.countP test := by
  unfold Block.finish
  split
  · next hempty => simp [List.isEmpty_iff.mp hempty]
  · simp [hheader, countP_slice htest]

/-- Of the lines that are neither headers nor context, a diff shows just those of its hunks. -/
theorem countP_print (hheader : ∀ b m a n, test (.header b m a n) = false)
    (htest : ∀ line, test (.context line) = false) :
    (Block.print context old b hs).countP test =
      b.lines.countP test + (hs.flatMap Hunk.lines).countP test := by
  induction hs generalizing b with
  | nil => simp [Block.print, countP_finish hheader htest]
  | cons h hs ih =>
    rw [Block.print, List.flatMap_cons, List.countP_append]
    split
    · rw [List.countP_append, countP_finish hheader htest, ih, countP_append htest]
      simp [Block.start]
    · rw [ih, countP_append htest]
      omega

theorem countP_unifiedLines (hheader : ∀ b m a n, test (.header b m a n) = false)
    (htest : ∀ line, test (.context line) = false) :
    (unifiedLines context old hs).countP test = (hs.flatMap Hunk.lines).countP test := by
  cases hs with
  | nil => rfl
  | cons h hs =>
    rw [unifiedLines, countP_print hheader htest]
    simp [Block.start]

/-- A test that selects one side of every hunk counts that side's lines. -/
lemma countP_flatMap_lines {side : Hunk → List String}
    (hside : ∀ h : Hunk, h.lines.countP test = (side h).length) :
    (hs.flatMap Hunk.lines).countP test = (hs.flatMap side).length := by
  induction hs with
  | nil => rfl
  | cons h hs ih =>
    rw [List.flatMap_cons, List.countP_append, hside, ih, List.flatMap_cons, List.length_append]

end DeployCheck.LineDiff
