import DeployCheck.Proofs.Logs

/-! Actions that keep step. They are run side by side in two worlds, from states that a relation
holds of. They keep step if they give the same result there and leave states that the relation holds
of. What is made of parts that keep step keeps step. -/
namespace DeployCheck

namespace Action

variable {ε δ α β : Type} {w u : World} {R : State → State → Prop}

/-- Two actions in two worlds keep step. -/
def KeepStep (w u : World) (R : State → State → Prop) (x y : Action ε α) : Prop :=
  ∀ st su, R st su → (x.run w st).1 = (y.run u su).1 ∧ R (x.run w st).2 (y.run u su).2

theorem keepStep_pure (a : α) : KeepStep w u R (pure a : Action ε α) (pure a) :=
  fun _ _ h => ⟨rfl,h⟩

theorem keepStep_throw (e : ε) : KeepStep w u R (throw e : Action ε α) (throw e) :=
  fun _ _ h => ⟨rfl,h⟩

theorem keepStep_throw_bind (e : ε) (f g : α → Action ε β) :
    KeepStep w u R ((throw e : Action ε α) >>= f) ((throw e : Action ε α) >>= g) :=
  fun _ _ h => ⟨rfl,h⟩

theorem keepStep_ofExcept (x : Except ε α) :
    KeepStep w u R (ofExcept x : Action ε α) (ofExcept x) := by
  intro st su h
  rw [run_ofExcept, run_ofExcept]
  exact ⟨rfl,h⟩

theorem keepStep_require (e : ε) (x : Option α) : KeepStep w u R (require e x) (require e x) := by
  cases x with
  | none => exact keepStep_throw e
  | some a => exact keepStep_pure a

theorem keepStep_modify {f g : State → State} (h : ∀ st su, R st su → R (f st) (g su)) :
    KeepStep w u R (modify f : Action ε Unit) (modify g) :=
  fun st su hR => ⟨rfl,h st su hR⟩

/-- What is read of two worlds may differ if what is then done keeps step. -/
theorem KeepStep.read {f g : World → Action ε α} (h : KeepStep w u R (f w) (g u)) :
    KeepStep w u R (read >>= f) (read >>= g) :=
  fun st su hR => h st su hR

variable {x y : Action ε α}

theorem KeepStep.ite {p : Prop} [Decidable p] {x' y' : Action ε α} (h : KeepStep w u R x y)
    (h' : KeepStep w u R x' y') : KeepStep w u R (if p then x else x') (if p then y else y') := by
  by_cases hp : p
  · rwa [if_pos hp, if_pos hp]
  · rwa [if_neg hp, if_neg hp]

theorem KeepStep.bind {f g : α → Action ε β} (h : KeepStep w u R x y)
    (hf : ∀ a, KeepStep w u R (f a) (g a)) : KeepStep w u R (x >>= f) (y >>= g) := by
  intro st su hR
  obtain ⟨hresult,hnext⟩ := h st su hR
  rw [run_bind, run_bind]
  generalize x.run w st = one at hresult hnext ⊢
  generalize y.run u su = two at hresult hnext ⊢
  obtain ⟨_,next⟩ := one
  obtain ⟨e | a,next'⟩ := two
  · obtain rfl := hresult
    exact ⟨rfl,hnext⟩
  · obtain rfl := hresult
    exact hf a next next' hnext

theorem KeepStep.map (h : KeepStep w u R x y) (f : α → β) :
    KeepStep w u R (f <$> x) (f <$> y) := by
  rw [map_eq_pure_bind, map_eq_pure_bind]
  exact h.bind fun _ => keepStep_pure _

theorem KeepStep.tryCatch {f g : ε → Action ε α} (h : KeepStep w u R x y)
    (hf : ∀ e, KeepStep w u R (f e) (g e)) :
    KeepStep w u R (MonadExcept.tryCatch x f) (MonadExcept.tryCatch y g) := by
  intro st su hR
  obtain ⟨hresult,hnext⟩ := h st su hR
  rw [run_tryCatch, run_tryCatch]
  generalize x.run w st = one at hresult hnext ⊢
  generalize y.run u su = two at hresult hnext ⊢
  obtain ⟨_,next⟩ := one
  obtain ⟨e | a,next'⟩ := two
  · obtain rfl := hresult
    exact hf e next next' hnext
  · obtain rfl := hresult
    exact ⟨rfl,hnext⟩

theorem KeepStep.mapFailure (h : KeepStep w u R x y) (f : ε → δ) :
    KeepStep w u R (x.mapFailure f) (y.mapFailure f) := by
  intro st su hR
  rw [run_mapFailure, run_mapFailure, (h st su hR).1]
  exact ⟨rfl,(h st su hR).2⟩

end Action

namespace Session

open DeployCheck.Action

variable {w u : World} {R : State → State → Prop} {r s : Request}

/-- Requests to one address keep step if they are answered alike and can be noted side by side. -/
theorem keepStep_send (hurl : r.url = s.url)
    (hreply : NamesHost r → ∀ st su, R st su → w.reply st.requests r = u.reply su.requests s)
    (hnote : NamesHost r → ∀ st su, R st su →
      R { st with requests := st.requests ++ [r] } { su with requests := su.requests ++ [s] }) :
    KeepStep w u R (send r) (send s) := by
  intro st su hR
  unfold send
  rw [hurl]
  cases hparse : Url.parse s.url with
  | error e => exact ⟨rfl,hR⟩
  | ok url =>
    cases hweb : url.isWeb with
    | false => simp [hweb, run_bind, hR]
    | true =>
      have hnames : NamesHost r := ⟨url,hurl ▸ hparse,hweb⟩
      simp only [hweb, Bool.not_true, Bool.false_eq_true, if_false, run_bind, run_read,
        run_get, run_set, hreply hnames st su hR]
      exact keepStep_require _ _ _ _ (hnote hnames st su hR)

theorem keepStep_sendChecked (h : KeepStep w u R (send r) (send s)) :
    KeepStep w u R (sendChecked r) (sendChecked s) := by
  apply h.bind
  intro reply
  exact ((keepStep_throw _).map _).ite (keepStep_pure _)

theorem keepStep_parseBody (reply : Reply) : KeepStep w u R (parseBody reply) (parseBody reply) :=
  keepStep_require _ _

end Session

end DeployCheck
