import DeployCheck.Proofs.Running

/-! What sessions leave behind. Requests are noted in the order in which they are sent, with the
answers that the world gives after those before, and nothing is taken back from the notes. -/
namespace DeployCheck

section Steps

variable {ε α : Type} {w : World} {st last : State}

namespace Action

@[simp] theorem run_throw (e : ε) : (throw e : Action ε α).run w st = (.error e, st) := rfl

@[simp] theorem run_read : (read : Action ε World).run w st = (.ok w, st) := rfl

@[simp] theorem run_get : (get : Action ε State).run w st = (.ok st, st) := rfl

@[simp] theorem run_set (next : State) : (set next : Action ε Unit).run w st = (.ok (), next) := rfl

@[simp] theorem run_modify (f : State → State) :
    (modify f : Action ε Unit).run w st = (.ok (), f st) := rfl

@[simp] theorem run_files : (files : Action ε Files).run w st = (.ok st.files, st) := rfl

theorem run_map {β : Type} (f : α → β) (x : Action ε α) :
    (f <$> x).run w st = ((x.run w st).1.map f, (x.run w st).2) := by
  rw [map_eq_pure_bind, run_bind]
  rcases x.run w st with ⟨e | a,next⟩ <;> rfl

theorem require_eq_ok_iff {e : ε} {x : Option α} {a : α} :
    (require e x).run w st = (.ok a, last) ↔ x = some a ∧ st = last := by
  cases x <;> simp [require]

theorem require_eq_error_iff {e e' : ε} {x : Option α} :
    (require e x).run w st = (.error e', last) ↔ x = none ∧ e = e' ∧ st = last := by
  cases x <;> simp [require]

end Action

namespace Session

open DeployCheck.Action

/-- A request has a URL of the web, which names a host. -/
def NamesHost (r : Request) : Prop := ∃ url, Url.parse r.url = .ok url ∧ url.isWeb

instance (r : Request) : Decidable (NamesHost r) :=
  decidable_of_iff ((Url.parse r.url).toOption.any Url.isWeb) (by
    unfold NamesHost
    cases Url.parse r.url <;> simp [Except.toOption])

/-- A request that names a host is noted, whatever its answer; any other is not sent. -/
theorem run_send (r : Request) : (send r).run w st =
    if NamesHost r then
      ((w.reply st.requests r).elim (.error .http) .ok,
        { st with requests := st.requests ++ [r] })
    else (.error .http, st) := by
  unfold send
  by_cases hhost : NamesHost r
  · rw [if_pos hhost]
    obtain ⟨url,hurl,hweb⟩ := hhost
    simp only [hurl, hweb, Bool.not_true, Bool.false_eq_true, if_false, run_bind, run_read,
      run_get, run_set]
    cases w.reply st.requests r <;> rfl
  · rw [if_neg hhost]
    cases hurl : Url.parse r.url with
    | error e => rfl
    | ok url =>
      have hweb : url.isWeb = false := by
        rw [← Bool.not_eq_true]
        exact fun hweb => hhost ⟨url,hurl,hweb⟩
      simp [hweb, run_bind]

/-- A request that is answered names a host and is noted. -/
theorem send_eq_ok_iff {r : Request} {reply : Reply} :
    (send r).run w st = (.ok reply, last) ↔ NamesHost r ∧
      w.reply st.requests r = some reply ∧ { st with requests := st.requests ++ [r] } = last := by
  rw [run_send]
  by_cases hhost : NamesHost r
  · cases w.reply st.requests r <;> simp [hhost]
  · simp [hhost]

/-- A request without an answer leaves at most a note. -/
theorem send_error {r : Request} {e : Failure} (h : (send r).run w st = (.error e, last)) :
    last = st ∨ last = { st with requests := st.requests ++ [r] } := by
  rw [run_send] at h
  split_ifs at h
  · exact .inr (congrArg Prod.snd h).symm
  · exact .inl (congrArg Prod.snd h).symm

theorem sendChecked_eq_ok_iff {r : Request} {reply : Reply} :
    (sendChecked r).run w st = (.ok reply, last) ↔
      (send r).run w st = (.ok reply, last) ∧ isErrorStatus reply.status = false := by
  unfold sendChecked
  rw [run_bind_eq_ok_iff]
  constructor
  · rintro ⟨answer,next,hsend,h⟩
    cases hstatus : isErrorStatus answer.status with
    | true => simp [hstatus, run_map, Except.map] at h
    | false =>
      obtain ⟨rfl,rfl⟩ : answer = reply ∧ next = last := by simpa [hstatus] using h
      exact ⟨hsend,hstatus⟩
  · rintro ⟨hsend,hstatus⟩
    exact ⟨reply,last,hsend,by simp [hstatus]⟩

theorem sendChecked_error {r : Request} {e : Failure}
    (h : (sendChecked r).run w st = (.error e, last)) :
    last = st ∨ last = { st with requests := st.requests ++ [r] } := by
  unfold sendChecked at h
  rcases run_bind_eq_error_iff.mp h with hsend | ⟨reply,next,hsend,h⟩
  · exact send_error hsend
  · obtain ⟨-,-,rfl⟩ := send_eq_ok_iff.mp hsend
    cases hstatus : isErrorStatus reply.status with
    | true => exact .inr (by simpa [hstatus, run_map, eq_comm] using congrArg Prod.snd h)
    | false => simp [hstatus] at h

theorem contentsOf_eq_ok_iff {path : String} {contents : Blob} :
    (contentsOf path).run w st = (.ok contents, last) ↔
      st.files.contents? path = some contents ∧ st = last := by
  simp [contentsOf, run_bind, require_eq_ok_iff]

theorem contentsOf_error {path : String} {e : Failure}
    (h : (contentsOf path).run w st = (.error e, last)) : last = st := by
  simp only [contentsOf, run_bind, run_files, require_eq_error_iff] at h
  exact h.2.2.symm

lemma setFiles_eq_ok_iff {files : Option Files} {u : Unit} :
    (setFiles files).run w st = (.ok u, last) ↔
      ∃ fs, files = some fs ∧ { st with files := fs } = last := by
  cases files <;> simp [setFiles]

lemma setFiles_error {files : Option Files} {e : Failure}
    (h : (setFiles files).run w st = (.error e, last)) : last = st := by
  cases files with
  | none => exact (congrArg Prod.snd h).symm
  | some fs => simp [setFiles] at h

theorem makeDirectories_eq_ok_iff {path : String} {u : Unit} :
    (makeDirectories path).run w st = (.ok u, last) ↔
      ∃ fs, st.files.makeDirectories? path = some fs ∧ { st with files := fs } = last := by
  unfold makeDirectories
  rw [run_bind, run_files]
  exact setFiles_eq_ok_iff

theorem makeDirectories_error {path : String} {e : Failure}
    (h : (makeDirectories path).run w st = (.error e, last)) : last = st := by
  unfold makeDirectories at h
  rw [run_bind, run_files] at h
  exact setFiles_error h

theorem writeFile_eq_ok_iff {path : String} {contents : Blob} {executable : Bool} {u : Unit} :
    (writeFile path contents executable).run w st = (.ok u, last) ↔
      ∃ fs, st.files.write? path contents executable = some fs ∧ { st with files := fs } = last := by
  unfold writeFile
  rw [run_bind, run_files]
  exact setFiles_eq_ok_iff

theorem writeFile_error {path : String} {contents : Blob} {executable : Bool} {e : Failure}
    (h : (writeFile path contents executable).run w st = (.error e, last)) : last = st := by
  unfold writeFile at h
  rw [run_bind, run_files] at h
  exact setFiles_error h

end Session

end Steps

end DeployCheck
