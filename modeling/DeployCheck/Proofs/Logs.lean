import DeployCheck.Proofs.Requests

/-! Logs of sessions. Requests and compilations are only added, so what was asked and answered on
the way to a state can be read off its log. -/
namespace DeployCheck

/-- Requests and compilations are only added. -/
structure State.Grows (st last : State) : Prop where
  requests : st.requests <+: last.requests
  compilations : st.compilations <+: last.compilations

/-- Requests are only added, and nothing is compiled. -/
structure State.Asks (st last : State) : Prop where
  requests : st.requests <+: last.requests
  compilations : last.compilations = st.compilations

namespace State

@[refl] theorem Grows.refl (st : State) : st.Grows st :=
  ⟨List.prefix_rfl,List.prefix_rfl⟩

theorem Grows.trans {a b c : State} (h : a.Grows b) (k : b.Grows c) : a.Grows c :=
  ⟨h.requests.trans k.requests,h.compilations.trans k.compilations⟩

@[refl] theorem Asks.refl (st : State) : st.Asks st :=
  ⟨List.prefix_rfl,rfl⟩

theorem Asks.trans {a b c : State} (h : a.Asks b) (k : b.Asks c) : a.Asks c :=
  ⟨h.requests.trans k.requests,k.compilations.trans h.compilations⟩

theorem Asks.grows {a b : State} (h : a.Asks b) : a.Grows b :=
  ⟨h.requests,h.compilations ▸ List.prefix_rfl⟩

instance : Std.Refl Grows := ⟨Grows.refl⟩

instance : IsTrans State Grows := ⟨fun _ _ _ => Grows.trans⟩

instance : Std.Refl Asks := ⟨Asks.refl⟩

instance : IsTrans State Asks := ⟨fun _ _ _ => Asks.trans⟩

end State

/-! ## Actions -/

namespace Action

variable {ε δ α β : Type} {R : State → State → Prop}

/-- However an action ends, the state that it leaves is related to the one that it starts in. -/
def Within (R : State → State → Prop) (a : Action ε α) : Prop := ∀ w st, R st (a.run w st).2

theorem Within.of_run {x : Action ε α} (h : x.Within R) {w : World} {st last : State}
    {result : Except ε α} (hrun : x.run w st = (result, last)) : R st last := by
  have hx := h w st
  rwa [hrun] at hx

theorem within_pure [Std.Refl R] (a : α) : (pure a : Action ε α).Within R :=
  fun _ st => Std.Refl.refl st

theorem within_throw [Std.Refl R] (e : ε) : (throw e : Action ε α).Within R :=
  fun _ st => Std.Refl.refl st

theorem within_throw_bind [Std.Refl R] (e : ε) (f : α → Action ε β) :
    ((throw e : Action ε α) >>= f).Within R :=
  fun _ st => Std.Refl.refl st

theorem within_read [Std.Refl R] : (read : Action ε World).Within R :=
  fun _ st => Std.Refl.refl st

theorem within_files [Std.Refl R] : (files : Action ε Files).Within R :=
  fun _ st => Std.Refl.refl st

theorem within_ofExcept [Std.Refl R] (x : Except ε α) : (ofExcept x : Action ε α).Within R := by
  intro w st
  rw [run_ofExcept]
  exact Std.Refl.refl st

theorem within_require [Std.Refl R] (e : ε) (x : Option α) : (require e x).Within R := by
  cases x with
  | none => exact within_throw e
  | some a => exact within_pure a

theorem within_modify {f : State → State} (h : ∀ st, R st (f st)) :
    (modify f : Action ε Unit).Within R :=
  fun _ st => h st

theorem Within.bind [IsTrans State R] {x : Action ε α} {f : α → Action ε β} (h : x.Within R)
    (hf : ∀ a, (f a).Within R) : (x >>= f).Within R := by
  intro w st
  have hx := h w st
  rw [run_bind]
  generalize x.run w st = result at hx ⊢
  obtain ⟨e | a,next⟩ := result
  · exact hx
  · exact IsTrans.trans _ _ _ hx (hf a w next)

/-- What follows an action starts in the state that the action leaves. -/
theorem within_after [Std.Refl R] (x : Action ε α) {f : α → Action ε β}
    (hf : ∀ a, (f a).Within R) (w : World) (st : State) :
    R (x.run w st).2 ((x >>= f).run w st).2 := by
  rw [run_bind]
  rcases x.run w st with ⟨e | a,next⟩
  · exact Std.Refl.refl _
  · exact hf a w next

/-- What follows an action and leaves every state alone does not show in the state left. -/
theorem state_bind {x : Action ε α} {f : α → Action ε β} (hf : ∀ a, (f a).Within Eq)
    (w : World) (st : State) : ((x >>= f).run w st).2 = (x.run w st).2 :=
  (within_after x hf w st).symm

theorem Within.map [IsTrans State R] [Std.Refl R] {x : Action ε α} (h : x.Within R) (f : α → β) :
    (f <$> x).Within R := by
  rw [map_eq_pure_bind]
  exact h.bind fun _ => within_pure _

theorem Within.tryCatch [IsTrans State R] {x : Action ε α} {f : ε → Action ε α} (h : x.Within R)
    (hf : ∀ e, (f e).Within R) : (tryCatch x f).Within R := by
  intro w st
  have hx := h w st
  rw [run_tryCatch]
  generalize x.run w st = result at hx ⊢
  obtain ⟨e | a,next⟩ := result
  · exact IsTrans.trans _ _ _ hx (hf e w next)
  · exact hx

theorem run_mapFailure (f : ε → δ) (x : Action ε α) (w : World) (st : State) :
    (x.mapFailure f).run w st = ((x.run w st).1.mapError f, (x.run w st).2) := by
  change (Except.mapError f <$> (x w : StateM State (Except ε α))).run st = _
  rw [StateT.run_map]
  rfl

theorem run_mapFailure_eq_ok_iff {f : ε → δ} {x : Action ε α} {w : World} {st last : State}
    {a : α} : (x.mapFailure f).run w st = (.ok a, last) ↔ x.run w st = (.ok a, last) := by
  rw [run_mapFailure]
  rcases x.run w st with ⟨e | b,next⟩ <;> simp [Except.mapError]

theorem Within.mapFailure {x : Action ε α} (h : x.Within R) (f : ε → δ) :
    (x.mapFailure f).Within R := by
  intro w st
  rw [run_mapFailure]
  exact h w st

theorem Within.grows {x : Action ε α} (h : x.Within State.Asks) : x.Within State.Grows :=
  fun w st => (h w st).grows

theorem asks_print (line : String) : (print line : Action ε Unit).Within State.Asks :=
  within_modify fun _ => ⟨List.prefix_rfl,rfl⟩

theorem asks_record (event : Event) : (record event : Action ε Unit).Within State.Asks :=
  within_modify fun _ => ⟨List.prefix_rfl,rfl⟩

end Action

/-! ## Sessions -/

namespace Session

open DeployCheck.Action

theorem asks_send (r : Request) : (send r).Within State.Asks := by
  intro w st
  rcases hrun : (send r).run w st with ⟨e | reply,last⟩
  · rcases send_error hrun with rfl | rfl
    · exact .refl _
    · exact ⟨List.prefix_append _ _,rfl⟩
  · obtain ⟨-,-,rfl⟩ := send_eq_ok_iff.mp hrun
    exact ⟨List.prefix_append _ _,rfl⟩

theorem asks_sendChecked (r : Request) : (sendChecked r).Within State.Asks := by
  unfold sendChecked
  apply (asks_send r).bind
  intro reply
  split
  · exact (within_throw _).map _
  · exact within_pure _

theorem asks_parseBody (reply : Reply) : (parseBody reply).Within State.Asks :=
  within_require _ _

section Files

variable {R : State → State → Prop} [Std.Refl R] (h : ∀ st fs, R st { st with files := fs })

include h

theorem within_setFiles (files : Option Files) : (setFiles files).Within R := by
  cases files with
  | none => exact within_throw _
  | some fs => exact within_modify fun st => h st fs

variable [IsTrans State R]

theorem within_makeDirectories (path : String) : (makeDirectories path).Within R :=
  within_files.bind fun _ => within_setFiles h _

theorem within_writeFile (path : String) (contents : Blob) (executable : Bool) :
    (writeFile path contents executable).Within R :=
  within_files.bind fun _ => within_setFiles h _

end Files

theorem asks_contentsOf (path : String) : (contentsOf path).Within State.Asks :=
  within_files.bind fun _ => within_require _ _

theorem asks_makeDirectories (path : String) : (makeDirectories path).Within State.Asks :=
  within_makeDirectories (fun _ _ => ⟨List.prefix_rfl,rfl⟩) path

theorem asks_writeFile (path : String) (contents : Blob) (executable : Bool) :
    (writeFile path contents executable).Within State.Asks :=
  within_writeFile (fun _ _ => ⟨List.prefix_rfl,rfl⟩) path contents executable

end Session

/-! ## Exchanges -/

/-- A request and its answer. -/
structure Exchange where
  request : Request
  reply : Reply

/-- On the way from one log of requests to a later one, these were sent in this order, each answered
after all that were sent before it, and not with an error status. Others may lie between them. -/
inductive Exchanges (w : World) : List Request → List Exchange → List Request → Prop
  | nil {sent last : List Request} (more : sent <+: last) : Exchanges w sent [] last
  | cons {sent now last : List Request} {x : Exchange} {xs : List Exchange} (more : sent <+: now)
    (answer : w.reply now x.request = some x.reply)
    (status : Session.isErrorStatus x.reply.status = false)
    (tail : Exchanges w (now ++ [x.request]) xs last) : Exchanges w sent (x :: xs) last

namespace Exchanges

variable {w : World} {a b c : List Request} {xs ys : List Exchange}

theorem of_prefix (h : a <+: b) (k : Exchanges w b xs c) : Exchanges w a xs c := by
  cases k with
  | nil more => exact .nil (h.trans more)
  | cons more answer status tail => exact .cons (h.trans more) answer status tail

theorem append (h : Exchanges w a xs b) (k : Exchanges w b ys c) : Exchanges w a (xs ++ ys) c := by
  induction h with
  | nil more => exact k.of_prefix more
  | cons more answer status _ ih => exact .cons more answer status (ih k)

end Exchanges

/-- A request was sent in one state, with an answer that reports no error, and led to another. -/
structure Sent (w : World) (st : State) (x : Exchange) (last : State) : Prop where
  answer : w.reply st.requests x.request = some x.reply
  status : Session.isErrorStatus x.reply.status = false
  requests : last.requests = st.requests ++ [x.request]
  compilations : last.compilations = st.compilations

theorem Sent.exchanges {w : World} {st last : State} {x : Exchange} (h : Sent w st x last) :
    Exchanges w st.requests [x] last.requests :=
  .cons List.prefix_rfl h.answer h.status (.nil (h.requests ▸ List.prefix_rfl))

theorem Sent.asks {w : World} {st last : State} {x : Exchange} (h : Sent w st x last) :
    st.Asks last :=
  ⟨h.requests ▸ List.prefix_append _ _,h.compilations⟩

theorem Session.sent_of_sendChecked {w : World} {st last : State} {r : Request} {reply : Reply}
    (h : (sendChecked r).run w st = (.ok reply, last)) : Sent w st ⟨r, reply⟩ last := by
  obtain ⟨hsent,hstatus⟩ := sendChecked_eq_ok_iff.mp h
  obtain ⟨-,hanswer,rfl⟩ := send_eq_ok_iff.mp hsent
  exact ⟨hanswer,hstatus,rfl,rfl⟩

end DeployCheck
