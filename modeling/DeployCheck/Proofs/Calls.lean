import DeployCheck.Proofs.Logs
import DeployCheck.Proofs.Result
import DeployCheck.Rpc

/-! Calls to a node. What a call gives is the result in the answer to one request, and a deployment
gives the address in the receipt of the transaction that it sent. -/
namespace DeployCheck

open DeployCheck.Action

namespace Rpc

/-- An exchange with the node at a URL that calls a method and returns a result. -/
structure Returns (url method : String) (params : Json) (x : Exchange) (result : Json) : Prop where
  request : ∃ id, x.request = ⟨"POST", url, [], some (Connection.callBody id method params)⟩
  result : ∃ answer, x.reply.body.json? = some answer ∧ resultOf method answer = .ok result

/-- An exchange in which a node gives the code at an address, in digits without a marker. -/
structure GivesCode (url address : String) (x : Exchange) (digits : String) : Prop where
  text : ∃ text, Returns url "eth_getCode" (.ofStrings [address, "latest"]) x (.str text) ∧
    Text.IsWithout "0x" text digits
  some_code : digits ≠ ""

/-- Exchanges in which a node deploys code and gives the new address. -/
structure Deploys (url sender : String) (data : List UInt8) (x y : Exchange) (address : String) :
    Prop where
  transaction : ∃ hash receipt,
    Returns url "eth_sendTransaction" (.arr [Connection.deployment sender data]) x (.str hash) ∧
    Returns url "eth_getTransactionReceipt" (.ofStrings [hash]) y receipt ∧
    contractAddress receipt = .ok address

theorem asks_connect (url : String) : (connect url).Within State.Asks := by
  intro w st
  exact ⟨List.prefix_rfl,rfl⟩

end Rpc

namespace Connection

open DeployCheck.Rpc

variable {w : World} {st last : State} {c : Connection}

theorem asks_nextId (c : Connection) : c.nextId.Within State.Asks := by
  intro w st
  exact ⟨List.prefix_rfl,rfl⟩

theorem asks_call (c : Connection) (method : String) (params : Json) :
    (c.call method params).Within State.Asks := by
  apply c.asks_nextId.bind
  intro id
  apply (Session.asks_sendChecked _).bind
  intro reply
  exact (Session.asks_parseBody reply).bind fun _ => within_ofExcept _

theorem asks_code (c : Connection) (address : String) : (c.code address).Within State.Asks := by
  apply (c.asks_call _ _).bind
  intro result
  split
  · exact within_pure _
  · exact within_throw _

theorem asks_chainId (c : Connection) : c.chainId.Within State.Asks :=
  (c.asks_call _ _).bind fun _ => within_require _ _

theorem asks_accounts (c : Connection) : c.accounts.Within State.Asks :=
  (c.asks_call _ _).bind fun _ => within_require _ _

theorem asks_receipt (c : Connection) (hash : String) (polls : Nat) :
    (c.receipt hash polls).Within State.Asks := by
  induction polls with
  | zero => exact within_throw _
  | succ polls ih =>
    apply (c.asks_call _ _).bind
    intro receipt
    split
    · exact ih
    · exact within_pure _

theorem asks_deploy (c : Connection) (sender : String) (data : List UInt8) :
    (c.deploy sender data).Within State.Asks := by
  apply (c.asks_call _ _).bind
  intro result
  split
  · exact (c.asks_receipt _ _).bind fun _ => within_ofExcept _
  · exact within_throw _

theorem sent_of_call {method : String} {params result : Json}
    (h : (c.call method params).run w st = (.ok result, last)) :
    ∃ x, Sent w st x last ∧ Returns c.url method params x result := by
  obtain ⟨id,counted,hid,h⟩ := run_bind_eq_ok_iff.mp h
  obtain ⟨reply,answered,hreply,h⟩ := run_bind_eq_ok_iff.mp h
  obtain ⟨answer,parsed,hparse,h⟩ := run_bind_eq_ok_iff.mp h
  obtain ⟨hanswer,rfl⟩ := require_eq_ok_iff.mp hparse
  obtain ⟨hresult,rfl⟩ := run_ofExcept_eq_iff.mp h
  cases hid
  have hsent := Session.sent_of_sendChecked hreply
  exact ⟨_,⟨hsent.answer,hsent.status,hsent.requests,hsent.compilations⟩,⟨_,rfl⟩,answer,hanswer,
    Result.mapError_eq_ok_iff.mp hresult⟩

theorem sent_of_code {address digits : String}
    (h : (c.code address).run w st = (.ok (some digits), last)) :
    ∃ x, Sent w st x last ∧ GivesCode c.url address x digits := by
  obtain ⟨result,next,hcall,h⟩ := run_bind_eq_ok_iff.mp h
  obtain ⟨x,hsent,hreturns⟩ := sent_of_call hcall
  cases result with
  | str text =>
    dsimp only at h
    split at h
    · cases h
    · next hsome =>
      cases h
      exact ⟨x,hsent,⟨text,hreturns,Text.isWithout_getD_textAfter? _ _⟩,hsome⟩
  | _ => cases h

theorem sent_of_accounts {accounts : List String}
    (h : c.accounts.run w st = (.ok accounts, last)) :
    ∃ x result, Sent w st x last ∧ Returns c.url "eth_accounts" (.arr []) x result ∧
      Json.listOf Json.asString? result = some accounts := by
  obtain ⟨result,next,hcall,h⟩ := run_bind_eq_ok_iff.mp h
  obtain ⟨x,hsent,hreturns⟩ := sent_of_call hcall
  obtain ⟨hlist,rfl⟩ := require_eq_ok_iff.mp h
  exact ⟨x,result,hsent,hreturns,hlist⟩

/-- A receipt is the result of the last of some calls. -/
theorem sent_of_receipt {hash : String} {polls : Nat} {receipt : Json}
    (h : (c.receipt hash polls).run w st = (.ok receipt, last)) :
    ∃ mid x, st.Asks mid ∧ Sent w mid x last ∧
      Returns c.url "eth_getTransactionReceipt" (.ofStrings [hash]) x receipt := by
  induction polls generalizing st with
  | zero => cases h
  | succ polls ih =>
    obtain ⟨result,next,hcall,h⟩ := run_bind_eq_ok_iff.mp h
    obtain ⟨x,hsent,hreturns⟩ := sent_of_call hcall
    split at h
    · obtain ⟨mid,y,hasks,hlater⟩ := ih h
      exact ⟨mid,y,hsent.asks.trans hasks,hlater⟩
    · cases h
      exact ⟨st,x,.refl st,hsent,hreturns⟩

theorem exchanges_of_deploy {sender address : String} {data : List UInt8}
    (h : (c.deploy sender data).run w st = (.ok address, last)) :
    ∃ x y, Exchanges w st.requests [x, y] last.requests ∧
      Deploys c.url sender data x y address := by
  obtain ⟨result,sent,hcall,h⟩ := run_bind_eq_ok_iff.mp h
  obtain ⟨x,hsent,hreturns⟩ := sent_of_call hcall
  cases result with
  | str hash =>
    obtain ⟨receipt,next,hpolls,h⟩ := run_bind_eq_ok_iff.mp h
    obtain ⟨mid,y,hasks,hlater,hreceipt⟩ := sent_of_receipt hpolls
    obtain ⟨haddress,rfl⟩ := run_ofExcept_eq_iff.mp h
    exact ⟨x,y,hsent.exchanges.append (hlater.exchanges.of_prefix hasks.requests),
      ⟨hash,receipt,hreturns,hreceipt,Result.mapError_eq_ok_iff.mp haddress⟩⟩
  | _ => cases h

end Connection

end DeployCheck
