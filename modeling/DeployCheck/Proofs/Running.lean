import DeployCheck.Config.Basic
import DeployCheck.Session
import Mathlib.Tactic.Common

/-! Runs of actions. A run that succeeds has run all its parts, and a run that fails has failed in
one of them and ends in the state that this part leaves. -/
namespace DeployCheck

/-- A world that answers requests by their URLs, the same way at all times. -/
def World.answering (answer : String → Option Reply) : World where
  reply _ request := answer request.url
  environment _ := none
  compiler _ _ := ⟨0, "", ""⟩
  node := .hangs
  isBusy _ _ := false
  directoryLimit := 0
  startTime := 0

/-- A configuration that only says where its contracts come from. -/
def Config.bare (contracts : List (String × String)) (repository : RepositoryRef) : Config where
  contracts := contracts
  repository := repository
  dependencies := []
  explorerHost := none
  explorerHostVariable := none
  explorerTokenVariable := none
  chainId := none
  bytecode := none
  failFast := true
  auditUrl := none
  metadata := none

end DeployCheck

namespace DeployCheck.Action

variable {ε δ α β : Type} {w : World} {st last : State}

@[simp] theorem run_pure (a : α) : (pure a : Action ε α).run w st = (.ok a, st) := rfl

@[simp] theorem run_ofExcept (x : Except ε α) : (ofExcept x : Action ε α).run w st = (x, st) := by
  cases x <;> rfl

theorem run_ofExcept_eq_iff {x result : Except ε α} :
    (ofExcept x : Action ε α).run w st = (result, last) ↔ x = result ∧ st = last := by
  rw [run_ofExcept, Prod.mk.injEq]

theorem run_bind (x : Action ε α) (f : α → Action ε β) :
    (x >>= f).run w st = match x.run w st with
      | (.ok a, next) => (f a).run w next
      | (.error e, next) => (.error e, next) := by
  simp only [run, ReaderT.run, bind, ReaderT.bind, ExceptT.bind, ExceptT.mk, StateT.bind,
    ExceptT.bindCont]
  rcases x w st with ⟨a | e,next⟩ <;> rfl

theorem run_bind_ofExcept (x : Action ε α) (f : α → Except ε β) :
    (x >>= fun a => ofExcept (f a)).run w st = ((x.run w st).1 >>= f, (x.run w st).2) := by
  rw [run_bind]
  rcases x.run w st with ⟨e | a,next⟩
  · rfl
  · exact run_ofExcept _

theorem run_tryCatch (x : Action ε α) (f : ε → Action ε α) :
    (tryCatch x f).run w st = match x.run w st with
      | (.ok a, next) => (.ok a, next)
      | (.error e, next) => (f e).run w next := by
  change ExceptT.tryCatch (x w) (fun e => f e w) st = _
  simp only [run, ReaderT.run, ExceptT.tryCatch, ExceptT.mk, bind, StateT.bind]
  rcases x w st with ⟨a | e,next⟩ <;> rfl

/-- A run with a result, seen through a function, has succeeded. -/
theorem exists_run_eq_ok {x : Action ε α} {f : α → β} {b : β}
    (h : (x.run w st).1.toOption.map f = some b) :
    ∃ a last, x.run w st = (.ok a, last) ∧ f a = b := by
  generalize x.run w st = result at h ⊢
  obtain ⟨e | a,last⟩ := result
  · cases h
  · exact ⟨a,last,rfl,Option.some.inj h⟩

theorem run_bind_eq_ok_iff {x : Action ε α} {f : α → Action ε β} {b : β} :
    (x >>= f).run w st = (.ok b, last) ↔
      ∃ a next, x.run w st = (.ok a, next) ∧ (f a).run w next = (.ok b, last) := by
  rw [run_bind]
  rcases x.run w st with ⟨e | a,next⟩ <;> simp

theorem run_bind_eq_error_iff {x : Action ε α} {f : α → Action ε β} {e : ε} :
    (x >>= f).run w st = (.error e, last) ↔ x.run w st = (.error e, last) ∨
      ∃ a next, x.run w st = (.ok a, next) ∧ (f a).run w next = (.error e, last) := by
  rw [run_bind]
  rcases x.run w st with ⟨e | a,next⟩ <;> simp

end DeployCheck.Action
