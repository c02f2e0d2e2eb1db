import DeployCheck.Proofs.Logs
import DeployCheck.Repository.Client

/-! What clients of the contents interface leave behind. They do nothing but send requests, so what
every request keeps is kept by whole searches. -/
namespace DeployCheck

open DeployCheck.Action DeployCheck.Session

namespace Repository.Client

variable {R : State → State → Prop} [Std.Refl R] [IsTrans State R] (c : Client)
  (r : RepositoryRef)

theorem within_get (hsend : ∀ request, (send request).Within R) (url accept : String) :
    (c.get url accept).Within R := by
  apply (hsend _).bind
  intro reply
  dsimp only
  split
  · exact within_pure _
  · split
    · exact (within_throw _).map _
    · exact within_pure _

theorem within_fileAt (hsend : ∀ request, (send request).Within R) (directory path : String) :
    (c.fileAt r directory path).Within R :=
  (within_ofExcept _).bind fun _ => (c.within_get hsend _ _).bind fun _ => within_pure _

theorem within_entries (hsend : ∀ request, (send request).Within R) (directory : String) :
    (c.entries r directory).Within R := by
  refine Within.bind (within_ofExcept _) fun repository => ?_
  apply (c.within_get hsend _ _).bind
  intro reply
  cases reply with
  | none => exact within_pure _
  | some reply => exact (within_require _ _).bind fun _ => within_pure _

theorem within_walk (hsend : ∀ request, (send request).Within R) (path : String) (limit : Nat)
    (walk : Walk) : (Repository.walk (c.tree r) path limit walk).Within R := by
  induction limit using Nat.strongRecOn generalizing walk with
  | ind limit ih =>
    unfold Repository.walk
    split
    · split
      · exact within_pure _
      · exact (c.within_fileAt r hsend _ _).bind fun _ => within_pure _
    · apply (c.within_fileAt r hsend _ _).bind
      intro content
      split
      · exact within_pure _
      · apply (c.within_entries r hsend _).bind
        intro entries
        cases limit with
        | zero => exact within_pure _
        | succ limit => exact ih limit limit.lt_succ_self _

theorem within_fetch (hsend : ∀ request, (send request).Within R) (recursive : Bool)
    (path : String) : (c.fetch recursive r path).Within R := by
  unfold fetch
  split
  · exact c.within_fileAt r hsend _ _
  · refine Within.bind within_read fun w => ?_
    apply (c.within_walk r hsend _ _ _).bind
    intro found
    cases found with
    | text content => exact within_pure _
    | absent => exact within_pure _
    | unfinished => exact within_throw _

end Repository.Client

/-! ## Files -/

/-- No file and no directory changes. -/
def State.KeepsFiles (st last : State) : Prop := last.files = st.files

instance : Std.Refl State.KeepsFiles := ⟨fun _ => rfl⟩

instance : IsTrans State State.KeepsFiles := ⟨fun _ _ _ h k => k.trans h⟩

theorem Session.keepsFiles_send (r : Request) : (send r).Within State.KeepsFiles := by
  intro w st
  rcases hrun : (send r).run w st with ⟨e | reply,last⟩
  · rcases send_error hrun with rfl | rfl <;> rfl
  · obtain ⟨-,-,rfl⟩ := send_eq_ok_iff.mp hrun
    rfl

theorem Repository.Client.keepsFiles_fetch (c : Client) (recursive : Bool) (r : RepositoryRef)
    (path : String) : (c.fetch recursive r path).Within State.KeepsFiles :=
  c.within_fetch r keepsFiles_send recursive path

end DeployCheck
