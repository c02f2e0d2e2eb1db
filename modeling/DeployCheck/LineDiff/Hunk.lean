import DeployCheck.LineDiff.Script

/-!
Hunks: runs of changed lines that lead from one list of lines to another. A differ finds them for any
two lists; that of shortest scripts is one.
-/
namespace DeployCheck.LineDiff

/-- A run of changed lines and where it starts in both texts, counted from zero. -/
structure Hunk where
  beforeStart : Nat
  afterStart : Nat
  removed : List String
  added : List String
deriving DecidableEq, Repr

namespace Hunk

/-- Whether the hunk starts right at the given positions. -/
def startsAt (h : Hunk) (b a : Nat) : Bool := h.beforeStart == b && h.afterStart == a

def stop (h : Hunk) : Nat := h.beforeStart + h.removed.length

/-- Puts a removed line in front of what follows it. -/
def consRemoved (b a : Nat) (line : String) : List Hunk → List Hunk
  | [] => [⟨b, a, [line], []⟩]
  | h :: hs =>
    if h.startsAt (b + 1) a then ⟨b, a, line :: h.removed, h.added⟩ :: hs
    else ⟨b, a, [line], []⟩ :: h :: hs

/-- Puts an added line in front of what follows it. -/
def consAdded (b a : Nat) (line : String) : List Hunk → List Hunk
  | [] => [⟨b, a, [], [line]⟩]
  | h :: hs =>
    if h.startsAt b (a + 1) then ⟨b, a, h.removed, line :: h.added⟩ :: hs
    else ⟨b, a, [], [line]⟩ :: h :: hs

end Hunk

/-- The hunks of a script that starts at the given positions. -/
def hunksFrom (b a : Nat) : List (Edit String) → List Hunk
  | [] => []
  | .keep _ :: s => hunksFrom (b + 1) (a + 1) s
  | .remove line :: s => Hunk.consRemoved b a line (hunksFrom (b + 1) a s)
  | .add line :: s => Hunk.consAdded b a line (hunksFrom b (a + 1) s)

/-- The hunks lead from the lines `old` to the lines `new`, which stand at the positions `b` and `a`:
some lines are kept in front of every hunk, and the lines behind the last one. -/
inductive Leads : Nat → Nat → List String → List String → List Hunk → Prop
  | kept (b a : Nat) (rest : List String) : Leads b a rest rest []
  | change {b a : Nat} {old new : List String} {hs : List Hunk} (kept : List String) (h : Hunk)
    (before : h.beforeStart = b + kept.length) (after : h.afterStart = a + kept.length)
    (changes : h.removed ≠ [] ∨ h.added ≠ [])
    (rest : Leads h.stop (h.afterStart + h.added.length) old new hs) :
    Leads b a (kept ++ (h.removed ++ old)) (kept ++ (h.added ++ new)) (h :: hs)

namespace Leads

variable {b a : Nat} {old new : List String} {hs : List Hunk}

theorem cons_kept (line : String) (h : Leads (b + 1) (a + 1) old new hs) :
    Leads b a (line :: old) (line :: new) hs := by
  cases h with
  | kept => exact .kept b a _
  | change kept _ before after changes rest =>
    exact .change (line :: kept) _ (by rw [before, List.length_cons]; omega)
      (by rw [after, List.length_cons]; omega) changes rest

theorem consRemoved (line : String) (h : Leads (b + 1) a old new hs) :
    Leads b a (line :: old) new (Hunk.consRemoved b a line hs) := by
  -- a hunk of its own, where the next one does not follow at once
  have hown : Leads b a (line :: old) new (⟨b, a, [line], []⟩ :: hs) :=
    .change [] ⟨b, a, [line], []⟩ rfl rfl (.inl (by simp)) h
  cases hs with
  | nil => exact hown
  | cons next hs =>
    rw [Hunk.consRemoved]
    split
    · next hstart =>
      obtain ⟨hb,ha⟩ : next.beforeStart = b + 1 ∧ next.afterStart = a := by
        simpa [Hunk.startsAt] using hstart
      cases h with
      | change kept _ before after changes rest =>
        obtain rfl : kept = [] := List.length_eq_zero_iff.mp (by omega)
        refine .change [] ⟨b, a, line :: next.removed, next.added⟩ rfl rfl
          (.inl (by simp)) ?_
        have hstop : b + (next.removed.length + 1) = next.stop := by
          unfold Hunk.stop
          omega
        simpa [Hunk.stop, hstop, ha] using rest
    · exact hown

theorem consAdded (line : String) (h : Leads b (a + 1) old new hs) :
    Leads b a old (line :: new) (Hunk.consAdded b a line hs) := by
  have hown : Leads b a old (line :: new) (⟨b, a, [], [line]⟩ :: hs) :=
    .change [] ⟨b, a, [], [line]⟩ rfl rfl (.inr (by simp)) h
  cases hs with
  | nil => exact hown
  | cons next hs =>
    rw [Hunk.consAdded]
    split
    · next hstart =>
      obtain ⟨hb,ha⟩ : next.beforeStart = b ∧ next.afterStart = a + 1 := by
        simpa [Hunk.startsAt] using hstart
      cases h with
      | change kept _ before after changes rest =>
        obtain rfl : kept = [] := List.length_eq_zero_iff.mp (by omega)
        refine .change [] ⟨b, a, next.removed, line :: next.added⟩ rfl rfl
          (.inr (by simp)) ?_
        have hlen : a + (next.added.length + 1) = next.afterStart + next.added.length := by omega
        simpa [Hunk.stop, hlen, hb] using rest
    · exact hown

end Leads

theorem leads_hunksFrom (b a : Nat) (s : List (Edit String)) :
    Leads b a (before s) (after s) (hunksFrom b a s) := by
  induction s generalizing b a with
  | nil => exact .kept b a []
  | cons e s ih =>
    cases e with
    | keep line => exact (ih (b + 1) (a + 1)).cons_kept line
    | remove line => exact (ih (b + 1) a).consRemoved line
    | add line => exact (ih b (a + 1)).consAdded line

section Same

variable {α : Type} [DecidableEq α]

theorem slideFrom_self (steps : List (Edit α)) (passed : Nat) (xs : List α) :
    ∃ n, Trail.slideFrom steps passed xs xs = ⟨(xs.map .keep).reverse ++ steps, n, [], []⟩ := by
  induction xs generalizing steps passed with
  | nil => exact ⟨passed,rfl⟩
  | cons x xs ih =>
    obtain ⟨n,hn⟩ := ih (.keep x :: steps) (passed + 2)
    exact ⟨n,by simp [Trail.slideFrom, hn]⟩

/-- Between a list and itself everything is kept. -/
theorem shortest_self (xs : List α) : shortest xs xs = xs.map .keep := by
  obtain ⟨n,hn⟩ := slideFrom_self [] 0 xs
  simp [shortest, Trail.search?, Trail.slide, hn, Trail.isFinished]

end Same

theorem hunksFrom_map_keep (b a : Nat) (xs : List String) : hunksFrom b a (xs.map .keep) = [] := by
  induction xs generalizing b a with
  | nil => rfl
  | cons x xs ih => exact ih (b + 1) (a + 1)

/-- A way to match the lines of two texts. Which lines it takes for changed is its own choice, but its
hunks lead from the one list of lines to the other, and there are none between equal lists. -/
structure Differ where
  hunks : List String → List String → List Hunk
  leads : ∀ old new, Leads 0 0 old new (hunks old new)
  hunks_self : ∀ lines, hunks lines lines = []

/-- The differ that changes the fewest lines. -/
def Differ.shortest : Differ where
  hunks old new := hunksFrom 0 0 (LineDiff.shortest old new)
  leads old new := by
    have h := leads_hunksFrom 0 0 (LineDiff.shortest old new)
    rwa [before_shortest, after_shortest] at h
  hunks_self lines := by rw [shortest_self, hunksFrom_map_keep]

end DeployCheck.LineDiff
