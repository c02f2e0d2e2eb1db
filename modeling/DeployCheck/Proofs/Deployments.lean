import DeployCheck.Proofs.Calls

/-! Calls of one connection in their order, and what a deployment calls. Every call takes the next
number, whatever comes of it; a deployment sends its transaction once and then follows the receipt. -/
namespace DeployCheck

open DeployCheck.Action DeployCheck.Rpc

lemma Json.isNull_iff {j : Json} : j.isNull = true ↔ j = .null := by
  cases j <;> simp [isNull]

namespace Session

variable {w : World} {st last : State} {r : Request} {e : Failure}

lemma http_of_send (h : (send r).run w st = (.error e, last)) : e = .http := by
  rw [run_send] at h
  split at h
  · cases hreply : w.reply st.requests r with
    | none => simpa [hreply, eq_comm] using congrArg Prod.fst h
    | some reply => simp [hreply] at h
  · simpa [eq_comm] using congrArg Prod.fst h

lemma http_of_sendChecked (h : (sendChecked r).run w st = (.error e, last)) : e = .http := by
  rcases run_bind_eq_error_iff.mp h with hsend | ⟨reply,next,-,h⟩
  · exact http_of_send hsend
  · split at h
    · simpa [run_map, Except.map, eq_comm] using congrArg Prod.fst h
    · cases h

end Session

/-- A call to a node: what it asks, the requests that leave for it and what comes of it. -/
structure Call where
  method : String
  params : Json
  sent : List Request
  result : Except Failure Json

namespace Connection

variable (c : Connection) {w : World} {st last : State} {R : State → State → Prop}

/-- Calls of a connection one after another, where `R` relates the states between them. -/
inductive Calls (w : World) (R : State → State → Prop) : State → List Call → State → Prop
  | nil {st last : State} (h : R st last) : Calls w R st [] last
  | cons {st before next last : State} {x : Call} {xs : List Call} (h : R st before)
      (hcall : (c.call x.method x.params).run w before = (x.result, next))
      (hsent : next.requests = before.requests ++ x.sent) (hrest : Calls w R next xs last) :
      Calls w R st (x :: xs) last

/-- What leaves for the call of a number: nothing, if the URL of the node names no host. -/
def sends (id : Nat) (method : String) (params : Json) : List Request :=
  let request : Request := ⟨"POST", c.url, [], some (callBody id method params)⟩
  if Session.NamesHost request then [request] else []

/-- The connection has made no calls in between. -/
def KeepsCount (st next : State) : Prop := next.calls[c.slot]? = st.calls[c.slot]?

instance : Std.Refl c.KeepsCount := ⟨fun _ => rfl⟩

/-! ## Numbers -/

/-- Whatever comes of it, a call takes the next number. -/
theorem state_call (method : String) (params : Json) (w : World) (st : State) :
    let id := st.calls.getD c.slot 0 + 1
    ((c.call method params).run w st).2 =
      { st with calls := st.calls.set c.slot id,
                requests := st.requests ++ c.sends id method params } := by
  intro id
  have hcounted : c.nextId.run w st = (.ok id, { st with calls := st.calls.set c.slot id }) := rfl
  unfold call Session.sendChecked
  rw [run_bind, hcounted]
  dsimp only
  rw [state_bind fun reply => ?_, state_bind fun reply => ?_, Session.run_send, sends]
  · split <;> simp
  · split
    · exact within_throw_bind _ _
    · exact within_pure _
  · exact (within_require _ _).bind fun _ => within_ofExcept _

/-- Calls that fail have no usable answer or one that reports a failure. -/
lemma call_error {method : String} {params : Json} {e : Failure}
    (h : (c.call method params).run w st = (.error e, last)) : e = .http ∨ ∃ cause, e = .rpc cause := by
  unfold call at h
  rcases run_bind_eq_error_iff.mp h with hid | ⟨id,counted,-,h⟩
  · cases hid
  rcases run_bind_eq_error_iff.mp h with hsend | ⟨reply,answered,-,h⟩
  · exact .inl (Session.http_of_sendChecked hsend)
  rcases run_bind_eq_error_iff.mp h with hparse | ⟨answer,parsed,-,h⟩
  · exact .inl (require_eq_error_iff.mp hparse).2.1.symm
  · obtain ⟨hresult,-⟩ := run_ofExcept_eq_iff.mp h
    cases hanswer : resultOf method answer with
    | ok result => simp [hanswer, Except.mapError] at hresult
    | error cause =>
      rw [hanswer] at hresult
      exact .inr ⟨cause,(Except.error.inj hresult).symm⟩

namespace Calls

variable {c} {xs : List Call}

/-- The calls of a connection take the numbers behind those taken so far, in order. -/
theorem sent_eq (hR : ∀ {a b}, R a b → c.KeepsCount a b) (h : c.Calls w R st xs last) {n : Nat}
    (hn : st.calls[c.slot]? = some n) :
    xs.map Call.sent = xs.mapIdx fun i x => c.sends (n + i + 1) x.method x.params := by
  induction h generalizing n with
  | nil h => rfl
  | @cons st before next last x xs h hcall hsent hrest ih =>
    have hbefore : before.calls[c.slot]? = some n := (hR h).trans hn
    have hstate := c.state_call x.method x.params w before
    rw [hcall, List.getD_eq_getElem?_getD, hbefore] at hstate
    dsimp only [Option.getD_some] at hstate
    have hnext : next.calls[c.slot]? = some (n + 1) := by
      rw [hstate]
      have hlt := (List.getElem?_eq_some_iff.mp hbefore).1
      simp [hlt]
    have hrequests : x.sent = c.sends (n + 1) x.method x.params := by
      rw [hstate] at hsent
      exact (List.append_cancel_left hsent).symm
    rw [List.map_cons, List.mapIdx_cons, hrequests, ih hnext]
    simp only [Nat.add_zero, Nat.add_right_comm n, Nat.add_assoc]

/-- A call that was run comes before the calls from the state that it left. -/
lemma cons_of_run [Std.Refl R] {method : String} {params : Json} {result : Except Failure Json}
    {next : State} (hcall : (c.call method params).run w st = (result, next)) :
    ∃ sent, ∀ {xs last},
      c.Calls w R next xs last → c.Calls w R st (⟨method, params, sent, result⟩ :: xs) last := by
  have hstate := c.state_call method params w st
  rw [hcall] at hstate
  let x : Call := ⟨method, params, c.sends (st.calls.getD c.slot 0 + 1) method params, result⟩
  have hsent : next.requests = st.requests ++ x.sent := congrArg State.requests hstate
  exact ⟨x.sent,fun {xs last} hrest => .cons (Std.Refl.refl st) hcall hsent hrest⟩

lemma error_of_mem (h : c.Calls w R st xs last) {x : Call} (hx : x ∈ xs) {e : Failure}
    (he : x.result = .error e) : e = .http ∨ ∃ cause, e = .rpc cause := by
  induction h with
  | nil h => cases hx
  | cons h hcall hsent hrest ih =>
    rcases List.mem_cons.mp hx with rfl | hx
    · rw [he] at hcall
      exact c.call_error hcall
    · exact ih hx

end Calls

/-! ## Receipts -/

/-- A call for the receipt of a transaction. -/
structure AsksReceipt (hash : String) (x : Call) : Prop where
  method : x.method = "eth_getTransactionReceipt"
  params : x.params = .ofStrings [hash]

/-- Calls for a receipt, `limit` of them at most, until it is there or a call fails, and what comes of
them. -/
inductive Polled (hash : String) : Nat → List Call → Except Failure Json → Prop
  | exhausted : Polled hash 0 [] (.error (.timeout ("receipt for " ++ hash) 10))
  | found {limit : Nat} {x : Call} {receipt : Json} (hasks : AsksReceipt hash x)
      (hresult : x.result = .ok receipt) (hnull : receipt ≠ .null) :
      Polled hash (limit + 1) [x] (.ok receipt)
  | failed {limit : Nat} {x : Call} {e : Failure} (hasks : AsksReceipt hash x)
      (hresult : x.result = .error e) : Polled hash (limit + 1) [x] (.error e)
  | pending {limit : Nat} {x : Call} {xs : List Call} {result : Except Failure Json}
      (hasks : AsksReceipt hash x) (hresult : x.result = .ok .null)
      (hrest : Polled hash limit xs result) : Polled hash (limit + 1) (x :: xs) result

/-- Asking for a receipt calls for it until it is there or a call fails. -/
theorem run_receipt (hash : String) (limit : Nat) (w : World) (st : State) : ∃ xs,
    c.Calls w Eq st xs ((c.receipt hash limit).run w st).2 ∧
      Polled hash limit xs ((c.receipt hash limit).run w st).1 := by
  induction limit generalizing st with
  | zero => exact ⟨[],.nil rfl,.exhausted⟩
  | succ limit ih =>
    rcases hcall : (c.call "eth_getTransactionReceipt" (.ofStrings [hash])).run w st with
      ⟨result,next⟩
    obtain ⟨sent,hcalls⟩ := Calls.cons_of_run (R := Eq) hcall
    have hasks : AsksReceipt hash ⟨_,_,sent,result⟩ := ⟨rfl,rfl⟩
    rw [receipt, run_bind, hcall]
    cases result with
    | error e =>
      dsimp only
      exact ⟨_,hcalls (.nil rfl),.failed hasks rfl⟩
    | ok answer =>
      dsimp only
      by_cases hnull : answer = .null
      · subst hnull
        obtain ⟨xs,hlater,hpolled⟩ := ih next
        exact ⟨_,hcalls hlater,.pending hasks rfl hpolled⟩
      · rw [if_neg (mt Json.isNull_iff.mp hnull)]
        exact ⟨_,hcalls (.nil rfl),.found hasks rfl hnull⟩

namespace Polled

variable {hash : String} {limit : Nat} {xs : List Call} {result : Except Failure Json}
  (h : Polled hash limit xs result)

include h

lemma asks : ∀ x ∈ xs, AsksReceipt hash x := by
  induction h with
  | exhausted => simp
  | found hasks | failed hasks => simpa using hasks
  | pending hasks _ _ ih => exact List.forall_mem_cons.mpr ⟨hasks,ih⟩

lemma length_le : xs.length ≤ limit := by
  induction h with
  | exhausted => exact Nat.le_refl 0
  | found | failed => exact Nat.succ_le_succ (Nat.zero_le _)
  | pending _ _ _ ih => exact Nat.succ_le_succ ih

/-- Only the last call can give anything but null. -/
lemma pending_of_mem : ∀ x ∈ xs.dropLast, x.result = .ok .null := by
  induction h with
  | exhausted | found | failed => simp
  | @pending _ x xs _ _ hresult hrest ih =>
    cases xs with
    | nil => simp
    | cons y ys => exact List.forall_mem_cons.mpr ⟨hresult,ih⟩

lemma ok_iff {receipt : Json} :
    result = .ok receipt ↔ ∃ x ∈ xs, x.result = .ok receipt ∧ receipt ≠ .null := by
  induction h with
  | exhausted => simp
  | found _ hresult hnull =>
    simp only [List.mem_singleton, exists_eq_left, hresult]
    constructor
    · rintro ⟨rfl⟩
      exact ⟨rfl,hnull⟩
    · rintro ⟨h,-⟩
      exact h
  | failed _ hresult => simp [hresult]
  | pending _ hresult _ ih =>
    rw [ih, List.exists_mem_cons_iff, hresult]
    constructor
    · exact .inr
    · rintro (⟨⟨rfl⟩,hnull⟩ | h)
      · exact absurd rfl hnull
      · exact h

lemma error_iff {e : Failure} : result = .error e ↔ (∃ x ∈ xs, x.result = .error e) ∨
    (xs.length = limit ∧ ∀ x ∈ xs, x.result = .ok .null) ∧
      e = .timeout ("receipt for " ++ hash) 10 := by
  induction h with
  | exhausted => simp [eq_comm]
  | found _ hresult hnull => simp [hresult, hnull]
  | failed _ hresult => simp [hresult, eq_comm]
  | pending _ hresult _ ih => simp [hresult, ih]

/-- Fewer calls than allowed end in one that gives something else than null. -/
lemma exists_of_length_lt (hlt : xs.length < limit) : ∃ x ∈ xs, x.result ≠ .ok .null := by
  by_contra hnone
  have hall : ∀ x ∈ xs, x.result = .ok .null := fun x hx => not_not.mp fun hne => hnone ⟨x,hx,hne⟩
  cases hresult : result with
  | ok receipt =>
    obtain ⟨x,hx,hok,hnull⟩ := h.ok_iff.mp hresult
    exact hnull (Except.ok.inj (hok.symm.trans (hall x hx)))
  | error e =>
    rcases h.error_iff.mp hresult with ⟨x,hx,herror⟩ | ⟨⟨hlength,-⟩,-⟩
    · cases herror.symm.trans (hall x hx)
    · omega

end Polled

/-! ## Deployments -/

/-- The calls of a deployment: one transaction, and then its receipt until there is one or a call
fails. -/
structure DeploymentCalls (sender : String) (data : List UInt8) (transaction : Call)
    (polls : List Call) : Prop where
  method : transaction.method = "eth_sendTransaction"
  params : transaction.params = .arr [deployment sender data]
  asks : ∀ x ∈ polls, ∃ hash, transaction.result = .ok (.str hash) ∧ AsksReceipt hash x
  length_le : polls.length ≤ 20
  pending : ∀ x ∈ polls.dropLast, x.result = .ok .null
  stops : ∀ hash, transaction.result = .ok (.str hash) → polls.length < 20 →
    ∃ x ∈ polls, x.result ≠ .ok .null

/-- What comes of the calls of a deployment: the address in a receipt of success, a timeout if no
receipt is there in the end, and the failure of a call that fails. -/
structure DeploymentYields (transaction : Call) (polls : List Call)
    (result : Except Failure String) : Prop where
  ok_iff : ∀ address, result = .ok address ↔ ∃ x ∈ polls, ∃ receipt, x.result = .ok receipt ∧
    receipt ≠ .null ∧ (receipt.string? "status").bind parseQuantity = some 1 ∧
    receipt.string? "contractAddress" = some address
  timeout_iff : ∀ what seconds, result = .error (.timeout what seconds) ↔
    (polls.length = 20 ∧ ∀ x ∈ polls, x.result = .ok .null) ∧ seconds = 10 ∧
      ∃ hash, transaction.result = .ok (.str hash) ∧ what = "receipt for " ++ hash
  error : ∀ x ∈ transaction :: polls, ∀ e, x.result = .error e → result = .error e

lemma contractAddress_eq_ok_iff {receipt : Json} {address : String} :
    contractAddress receipt = .ok address ↔
      (receipt.string? "status").bind parseQuantity = some 1 ∧
        receipt.string? "contractAddress" = some address := by
  unfold contractAddress
  dsimp only
  split
  · next hstatus => cases receipt.string? "contractAddress" <;> simp [hstatus]
  · next hstatus => simp [hstatus]

section Outcomes

variable {sender hash : String} {data : List UInt8} {transaction : Call} {polls : List Call}
  {received : Except Failure Json} {e : Failure}

/-- Without a hash nothing is asked, and the deployment has failed. -/
lemma yields_nil (herror : ∀ e', transaction.result = .error e' → e' = e)
    (hcall : e = .http ∨ ∃ cause, e = .rpc cause) : DeploymentYields transaction [] (.error e) where
  ok_iff := by simp
  timeout_iff := by
    rcases hcall with rfl | ⟨cause,rfl⟩ <;> simp
  error := by
    simp only [List.forall_mem_singleton]
    intro e' he'
    rw [herror e' he']

lemma calls_nil (hmethod : transaction.method = "eth_sendTransaction")
    (hparams : transaction.params = .arr [deployment sender data])
    (hhash : ∀ hash, transaction.result ≠ .ok (.str hash)) :
    DeploymentCalls sender data transaction [] where
  method := hmethod
  params := hparams
  asks := by simp
  length_le := Nat.zero_le _
  pending := by simp
  stops hash h := absurd h (hhash hash)

lemma calls_of_polled (hmethod : transaction.method = "eth_sendTransaction")
    (hparams : transaction.params = .arr [deployment sender data])
    (hhash : transaction.result = .ok (.str hash)) (h : Polled hash 20 polls received) :
    DeploymentCalls sender data transaction polls where
  method := hmethod
  params := hparams
  asks x hx := ⟨hash,hhash,h.asks x hx⟩
  length_le := h.length_le
  pending := h.pending_of_mem
  stops _ _ hlt := h.exists_of_length_lt hlt

lemma yields_of_polled (hhash : transaction.result = .ok (.str hash))
    (hcalls : c.Calls w R st polls last) (h : Polled hash 20 polls received) :
    DeploymentYields transaction polls
      (received >>= fun receipt => (contractAddress receipt).mapError .rpc) where
  ok_iff address := by
    rw [Result.bind_eq_ok_iff]
    simp only [h.ok_iff, Result.mapError_eq_ok_iff, contractAddress_eq_ok_iff]
    constructor
    · rintro ⟨receipt,⟨x,hx,hresult,hnull⟩,haddress⟩
      exact ⟨x,hx,receipt,hresult,hnull,haddress⟩
    · rintro ⟨x,hx,receipt,hresult,hnull,haddress⟩
      exact ⟨receipt,⟨x,hx,hresult,hnull⟩,haddress⟩
  timeout_iff what seconds := by
    constructor
    · intro htimeout
      cases received with
      | ok receipt =>
        rw [Result.ok_bind] at htimeout
        cases haddress : contractAddress receipt <;> simp [haddress, Except.mapError] at htimeout
      | error e =>
        obtain rfl : e = .timeout what seconds := Except.error.inj htimeout
        rcases h.error_iff.mp rfl with ⟨x,hx,herror⟩ | ⟨hall,hwhat⟩
        · rcases hcalls.error_of_mem hx herror with he | ⟨cause,he⟩ <;> cases he
        · cases hwhat
          exact ⟨hall,rfl,hash,hhash,rfl⟩
    · rintro ⟨hall,rfl,hash',hhash',rfl⟩
      obtain rfl : hash' = hash := by
        rw [hhash] at hhash'
        cases hhash'
        rfl
      rw [h.error_iff.mpr (.inr ⟨hall,rfl⟩)]
      rfl
  error x hx e he := by
    rcases List.mem_cons.mp hx with rfl | hx
    · cases hhash.symm.trans he
    · rw [h.error_iff.mpr (.inl ⟨x,hx,he⟩)]
      rfl

end Outcomes

/-- A deployment sends one transaction and follows its receipt. -/
theorem run_deploy (sender : String) (data : List UInt8) (w : World) (st : State) :
    ∃ transaction polls,
      c.Calls w Eq st (transaction :: polls) ((c.deploy sender data).run w st).2 ∧
        DeploymentCalls sender data transaction polls ∧
        DeploymentYields transaction polls ((c.deploy sender data).run w st).1 := by
  rcases hcall : (c.call "eth_sendTransaction" (.arr [deployment sender data])).run w st with
    ⟨result,next⟩
  obtain ⟨sent,hcalls⟩ := Calls.cons_of_run (R := Eq) hcall
  have hrefused : ∀ e, (c.deploy sender data).run w st = (.error e, next) →
      (∀ hash, result ≠ .ok (.str hash)) → (∀ e', result = .error e' → e' = e) →
      (e = .http ∨ ∃ cause, e = .rpc cause) → ∃ transaction polls,
        c.Calls w Eq st (transaction :: polls) ((c.deploy sender data).run w st).2 ∧
          DeploymentCalls sender data transaction polls ∧
          DeploymentYields transaction polls ((c.deploy sender data).run w st).1 := by
    intro e hrun hhash herror hcause
    rw [hrun]
    exact ⟨_,[],hcalls (.nil rfl),calls_nil rfl rfl hhash,yields_nil herror hcause⟩
  cases result with
  | error e =>
    have hrun : (c.deploy sender data).run w st = (.error e, next) := by
      rw [deploy, run_bind, hcall]
    exact hrefused e hrun (by simp) (by simp [eq_comm]) (c.call_error hcall)
  | ok answer =>
    cases answer with
    | str hash =>
      obtain ⟨polls,hpolls,hpolled⟩ := c.run_receipt hash 20 w next
      have hrun : (c.deploy sender data).run w st =
          (((c.receipt hash 20).run w next).1 >>= fun receipt =>
            (contractAddress receipt).mapError .rpc, ((c.receipt hash 20).run w next).2) := by
        rw [deploy, run_bind, hcall]
        exact run_bind_ofExcept _ _
      rw [hrun]
      exact ⟨_,polls,hcalls hpolls,calls_of_polled rfl rfl rfl hpolled,
        yields_of_polled c rfl hpolls hpolled⟩
    | _ =>
      have hrun : (c.deploy sender data).run w st = (.error (.rpc .noHash), next) := by
        rw [deploy, run_bind, hcall]
        rfl
      exact hrefused _ hrun (by simp) (by simp) (.inr ⟨_,rfl⟩)

/-- A deployment sends one transaction and follows its receipt. From its opening on, the calls of a
connection take the numbers from one on, whatever comes of them and whatever else is done between
them. -/
theorem deployments_and_numbers (c : Connection) (w : World) :
    (∀ sender data st, ∃ transaction polls,
      c.Calls w Eq st (transaction :: polls) ((c.deploy sender data).run w st).2 ∧
        DeploymentCalls sender data transaction polls ∧
        DeploymentYields transaction polls ((c.deploy sender data).run w st).1) ∧
    ∀ url st opened xs last, (connect url).run w st = (.ok c, opened) →
      c.Calls w c.KeepsCount opened xs last →
      xs.map Call.sent = xs.mapIdx fun i x => c.sends (i + 1) x.method x.params := by
  refine ⟨fun sender data st => c.run_deploy sender data w st,?_⟩
  intro url st opened xs last hopen hcalls
  have hcount : opened.calls[c.slot]? = some 0 := by
    cases hopen
    simp
  simpa using hcalls.sent_eq id hcount

/-- A world in which the first request fails and all others have no result. -/
def recovering : World :=
  { World.answering fun _ => none with
    reply := fun sent _ =>
      if sent.isEmpty then none else some ⟨200, (Json.obj [("result", .null)]).compact⟩ }

/-- A call that fails takes its number away. -/
theorem deployments_and_numbers_recovering : ∃ c opened x y last,
    (connect "http://localhost").run recovering {} = (.ok c, opened) ∧
    c.Calls recovering c.KeepsCount opened [x, y] last ∧ x.result.toOption = none ∧
    x.sent = [⟨"POST", "http://localhost", [], some (callBody 1 "eth_chainId" (.arr []))⟩] ∧
    y.sent = [⟨"POST", "http://localhost", [], some (callBody 2 "eth_accounts" (.arr []))⟩] := by
  let c : Connection := ⟨"http://localhost", 0⟩
  let opened : State := { calls := [0] }
  have hopen : (connect "http://localhost").run recovering {} = (.ok c, opened) := rfl
  have hfails : ((c.call "eth_chainId" (.arr [])).run recovering opened).1.toOption.isNone := by
    decide +kernel
  have hhost : Session.NamesHost (Request.get "http://localhost") := by decide +kernel
  have hsends : ∀ id method, c.sends id method (.arr []) =
      [⟨"POST", "http://localhost", [], some (callBody id method (.arr []))⟩] :=
    fun _ _ => if_pos hhost
  rcases hfirst : (c.call "eth_chainId" (.arr [])).run recovering opened with ⟨first,mid⟩
  rcases hsecond : (c.call "eth_accounts" (.arr [])).run recovering mid with ⟨second,last⟩
  obtain ⟨s,hx⟩ := Calls.cons_of_run (R := c.KeepsCount) hfirst
  obtain ⟨t,hy⟩ := Calls.cons_of_run (R := c.KeepsCount) hsecond
  have hcalls := hx (hy (.nil rfl))
  have hsent := (deployments_and_numbers c recovering).2 _ _ _ _ _ hopen hcalls
  rw [hfirst] at hfails
  simp only [List.map_cons, List.map_nil, List.mapIdx_cons, List.mapIdx_nil, List.cons.injEq,
    hsends] at hsent
  exact ⟨c,opened,_,_,last,hopen,hcalls,Option.isNone_iff_eq_none.mp hfails,hsent.1,hsent.2.1⟩

end Connection

end DeployCheck
