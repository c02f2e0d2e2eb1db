import Mathlib.Data.List.Forall2
import Mathlib.Tactic.Common

/-! Computations that may fail, taken apart where they succeed. -/
namespace DeployCheck.Result

variable {ε α β : Type} {x : Except ε α} {b : β}

theorem bind_eq_ok_iff {f : α → Except ε β} :
    x >>= f = .ok b ↔ ∃ a, x = .ok a ∧ f a = .ok b := by
  cases x <;> simp [bind, Except.bind]

theorem ok_bind (a : α) (f : α → Except ε β) : Except.ok a >>= f = f a := rfl

theorem map_eq_ok_iff {f : α → β} : f <$> x = .ok b ↔ ∃ a, x = .ok a ∧ f a = b := by
  cases x <;> simp [Functor.map, Except.map]

theorem mapError_eq_ok_iff {δ : Type} {f : ε → δ} {y : Except ε β} :
    y.mapError f = .ok b ↔ y = .ok b := by
  cases y <;> simp [Except.mapError]

theorem eq_ok_of_toOption {a : α} {y : Except ε α} (h : y.toOption = some a) : y = .ok a := by
  cases y with
  | error e => cases h
  | ok a => exact congrArg _ (Option.some.inj h)

theorem cons_eq_ok_iff {xs : Except ε (List α)} {as : List α} {y : Except ε α} :
    (do let a ← y; return a :: (← xs)) = .ok as ↔
      ∃ a rest, y = .ok a ∧ xs = .ok rest ∧ as = a :: rest := by
  rw [bind_eq_ok_iff]
  constructor
  · rintro ⟨a,ha,h⟩
    obtain ⟨rest,hrest,h⟩ := bind_eq_ok_iff.mp h
    exact ⟨a,rest,ha,hrest,(Except.ok.inj h).symm⟩
  · rintro ⟨a,rest,ha,hrest,rfl⟩
    exact ⟨a,ha,bind_eq_ok_iff.mpr ⟨rest,hrest,rfl⟩⟩

/-- A list is mapped member by member. -/
theorem mapM_eq_ok_iff {f : α → Except ε β} {as : List α} {bs : List β} :
    as.mapM f = .ok bs ↔ List.Forall₂ (fun a b => f a = .ok b) as bs := by
  induction as generalizing bs with
  | nil => simp [pure, Except.pure, eq_comm]
  | cons a as ih =>
    rw [List.mapM_cons, cons_eq_ok_iff, List.forall₂_cons_left_iff]
    simp only [ih]

end DeployCheck.Result
