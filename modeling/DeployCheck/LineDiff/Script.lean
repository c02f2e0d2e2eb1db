/-!
Edit scripts between two lists, and a script with the fewest changes. A script determines both
lists: `before` and `after` of the script that is found are the lists it was asked for.
-/
namespace DeployCheck.LineDiff

/-- A step of an edit script. -/
inductive Edit (α : Type) where
  | keep (a : α)
  | remove (a : α)
  | add (a : α)
deriving DecidableEq, Repr

variable {α : Type}

/-- The list that a script changes. -/
def before : List (Edit α) → List α
  | [] => []
  | .keep a :: s => a :: before s
  | .remove a :: s => a :: before s
  | .add _ :: s => before s

/-- The list that a script makes. -/
def after : List (Edit α) → List α
  | [] => []
  | .keep a :: s => a :: after s
  | .remove _ :: s => after s
  | .add a :: s => a :: after s

theorem before_append (s t : List (Edit α)) : before (s ++ t) = before s ++ before t := by
  induction s with
  | nil => rfl
  | cons e s ih => cases e <;> simp [before, ih]

theorem after_append (s t : List (Edit α)) : after (s ++ t) = after s ++ after t := by
  induction s with
  | nil => rfl
  | cons e s ih => cases e <;> simp [after, ih]

/-- The script that keeps nothing. -/
def replacement (xs ys : List α) : List (Edit α) := xs.map .remove ++ ys.map .add

theorem before_map_remove (xs : List α) : before (xs.map .remove) = xs := by
  induction xs with
  | nil => rfl
  | cons x xs ih => simp [before, ih]

theorem before_map_add (ys : List α) : before (ys.map .add) = [] := by
  induction ys with
  | nil => rfl
  | cons y ys ih => simpa [before] using ih

theorem after_map_remove (xs : List α) : after (xs.map .remove) = [] := by
  induction xs with
  | nil => rfl
  | cons x xs ih => simpa [after] using ih

theorem after_map_add (ys : List α) : after (ys.map .add) = ys := by
  induction ys with
  | nil => rfl
  | cons y ys ih => simp [after, ih]

theorem before_replacement (xs ys : List α) : before (replacement xs ys) = xs := by
  simp [replacement, before_append, before_map_remove, before_map_add]

theorem after_replacement (xs ys : List α) : after (replacement xs ys) = ys := by
  simp [replacement, after_append, after_map_remove, after_map_add]

/-- A script under way: its steps so far, the last one first, how many elements of both lists they
pass, and what they leave of both. -/
structure Trail (α : Type) where
  steps : List (Edit α)
  passed : Nat
  left : List α
  right : List α
deriving Repr

namespace Trail

/-- Keeps elements as long as both lists have the same ones. -/
def slideFrom [DecidableEq α] (steps : List (Edit α)) (passed : Nat) : List α → List α → Trail α
  | x :: xs, y :: ys =>
    if x = y then slideFrom (.keep x :: steps) (passed + 2) xs ys
    else ⟨steps, passed, x :: xs, y :: ys⟩
  | [], ys => ⟨steps, passed, [], ys⟩
  | xs, [] => ⟨steps, passed, xs, []⟩

def slide [DecidableEq α] (t : Trail α) : Trail α := slideFrom t.steps t.passed t.left t.right

def isFinished (t : Trail α) : Bool := t.left.isEmpty && t.right.isEmpty

/-- Removes an element if one is left. -/
def remove? (t : Trail α) : Option (Trail α) :=
  match t.left with
  | [] => none
  | x :: xs => some ⟨.remove x :: t.steps, t.passed + 1, xs, t.right⟩

/-- Adds an element if one is left. -/
def add? (t : Trail α) : Option (Trail α) :=
  match t.right with
  | [] => none
  | y :: ys => some ⟨.add y :: t.steps, t.passed + 1, t.left, ys⟩

/-- The trail that is further, the first if none is. -/
def further : Option (Trail α) → Option (Trail α) → Option (Trail α)
  | some s, some t => some (if s.passed < t.passed then t else s)
  | some s, none => some s
  | none, t => t

/-- The trails with one change more. Each trail of the list removes one element more and adds one
less than the next, so adding after the one and removing after the other lead to equally many of
both. Only the further of the two is followed, as it finishes with no more changes. -/
def advance [DecidableEq α] (candidate : Option (Trail α)) : List (Trail α) → List (Trail α)
  | [] => (candidate.map slide).toList
  | t :: ts =>
    match further candidate t.remove? with
    | none => advance t.add? ts
    | some s => s.slide :: advance t.add? ts

/-- The steps of the first trail that finishes within a number of changes. -/
def search? [DecidableEq α] : Nat → List (Trail α) → Option (List (Edit α))
  | 0, _ => none
  | limit + 1, trails =>
    match trails.find? isFinished with
    | some t => some t.steps.reverse
    | none => search? limit (advance none trails)

end Trail

/-- A script with the fewest changes: trails are followed with no change, one change and so on until
one finishes, which takes no more changes than removing and adding everything. -/
def shortest [DecidableEq α] (xs ys : List α) : List (Edit α) :=
  (Trail.search? (xs.length + ys.length + 1) [Trail.slide ⟨[], 0, xs, ys⟩]).getD (replacement xs ys)

namespace Trail

/-- The trail leads from the start of both lists. -/
structure Within (xs ys : List α) (t : Trail α) : Prop where
  before : before t.steps.reverse ++ t.left = xs
  after : after t.steps.reverse ++ t.right = ys

theorem within_slideFrom [DecidableEq α] {xs ys : List α} {steps : List (Edit α)} {passed : Nat}
    {left right : List α} (h : Within xs ys ⟨steps, passed, left, right⟩) :
    Within xs ys (slideFrom steps passed left right) := by
  induction left generalizing steps passed right with
  | nil => simpa [slideFrom] using h
  | cons x left ih =>
    cases right with
    | nil => simpa [slideFrom] using h
    | cons y right =>
      unfold slideFrom
      split
      next hxy =>
        subst hxy
        apply ih
        constructor
        · simpa [before_append, LineDiff.before] using h.before
        · simpa [after_append, LineDiff.after] using h.after
      next => exact h

theorem within_slide [DecidableEq α] {xs ys : List α} {t : Trail α} (h : Within xs ys t) :
    Within xs ys t.slide :=
  within_slideFrom h

theorem within_remove {xs ys : List α} {t : Trail α} (h : Within xs ys t) :
    ∀ u ∈ t.remove?, Within xs ys u := by
  obtain ⟨steps, passed, left, right⟩ := t
  cases left with
  | nil => simp [remove?]
  | cons x left =>
    intro u hu
    obtain rfl := Option.some.inj hu
    constructor
    · simpa [before_append, LineDiff.before] using h.before
    · simpa [after_append, LineDiff.after] using h.after

theorem within_add {xs ys : List α} {t : Trail α} (h : Within xs ys t) :
    ∀ u ∈ t.add?, Within xs ys u := by
  obtain ⟨steps, passed, left, right⟩ := t
  cases right with
  | nil => simp [add?]
  | cons y right =>
    intro u hu
    obtain rfl := Option.some.inj hu
    constructor
    · simpa [before_append, LineDiff.before] using h.before
    · simpa [after_append, LineDiff.after] using h.after

theorem within_further {xs ys : List α} {s t : Option (Trail α)} (hs : ∀ u ∈ s, Within xs ys u)
    (ht : ∀ u ∈ t, Within xs ys u) : ∀ u ∈ further s t, Within xs ys u := by
  cases s with
  | none => simpa [further] using ht
  | some s =>
    cases t with
    | none => simpa [further] using hs
    | some t =>
      intro u hu
      obtain rfl := Option.some.inj hu
      split
      · exact ht t rfl
      · exact hs s rfl

theorem within_advance [DecidableEq α] {xs ys : List α} {candidate : Option (Trail α)}
    {trails : List (Trail α)} (hc : ∀ u ∈ candidate, Within xs ys u)
    (h : ∀ t ∈ trails, Within xs ys t) : ∀ t ∈ advance candidate trails, Within xs ys t := by
  induction trails generalizing candidate with
  | nil =>
    intro u hu
    obtain ⟨v, hv, rfl⟩ : ∃ v, candidate = some v ∧ v.slide = u := by simpa [advance] using hu
    exact within_slide (hc v hv)
  | cons t trails ih =>
    have ht := h t (by simp)
    have rest := ih (within_add ht) fun v hv => h v (by simp [hv])
    unfold advance
    split
    next => exact rest
    next s hs =>
      intro u hu
      rcases List.mem_cons.mp hu with rfl | hu
      · exact within_slide (within_further hc (within_remove ht) s hs)
      · exact rest u hu

theorem Within.before_steps {xs ys : List α} {t : Trail α} (h : Within xs ys t)
    (hf : t.isFinished) : LineDiff.before t.steps.reverse = xs := by
  simp only [isFinished, Bool.and_eq_true, List.isEmpty_iff] at hf
  simpa [hf.1] using h.before

theorem Within.after_steps {xs ys : List α} {t : Trail α} (h : Within xs ys t)
    (hf : t.isFinished) : LineDiff.after t.steps.reverse = ys := by
  simp only [isFinished, Bool.and_eq_true, List.isEmpty_iff] at hf
  simpa [hf.2] using h.after

theorem search_within [DecidableEq α] {xs ys : List α} {limit : Nat} {trails : List (Trail α)}
    (h : ∀ t ∈ trails, Within xs ys t) :
    ∀ s ∈ search? limit trails, LineDiff.before s = xs ∧ LineDiff.after s = ys := by
  induction limit generalizing trails with
  | zero => simp [search?]
  | succ limit ih =>
    intro s hs
    unfold search? at hs
    split at hs
    next t ht =>
      obtain rfl := Option.some.inj hs
      have hw := h t (List.mem_of_find?_eq_some ht)
      have hf := List.find?_some ht
      exact ⟨hw.before_steps hf, hw.after_steps hf⟩
    next => exact ih (within_advance (by simp) h) s hs

end Trail

theorem before_and_after_shortest [DecidableEq α] (xs ys : List α) :
    before (shortest xs ys) = xs ∧ after (shortest xs ys) = ys := by
  unfold shortest
  cases hs : Trail.search? (xs.length + ys.length + 1) [Trail.slide ⟨[], 0, xs, ys⟩] with
  | none => exact ⟨before_replacement xs ys, after_replacement xs ys⟩
  | some s =>
    refine Trail.search_within (fun t ht => ?_) s hs
    obtain rfl := List.mem_singleton.mp ht
    exact Trail.within_slide ⟨rfl, rfl⟩

theorem before_shortest [DecidableEq α] (xs ys : List α) : before (shortest xs ys) = xs :=
  (before_and_after_shortest xs ys).1

theorem after_shortest [DecidableEq α] (xs ys : List α) : after (shortest xs ys) = ys :=
  (before_and_after_shortest xs ys).2

end DeployCheck.LineDiff
