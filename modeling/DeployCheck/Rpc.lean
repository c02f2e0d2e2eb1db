import DeployCheck.Session

/-!
JSON-RPC connections to a node: numbered calls, and what a verification asks of a chain. A
deployment sends one transaction and then asks for its receipt a limited number of times.
-/
namespace DeployCheck

/-- A connection to a node; its slot holds the number of its calls. -/
structure Connection where
  url : String
  slot : Nat
deriving DecidableEq, Repr

namespace Rpc

/-- A hexadecimal quantity, always written with its marker. -/
def parseQuantity (text : String) : Option Nat :=
  (Text.after? ['0', 'x'] text.toList).bind (Text.natBelow 16 Text.wordBound)

/-- The result in an answer; an error in it, of whatever form, counts first. -/
def resultOf (method : String) (answer : Json) : Except RpcError Json :=
  match answer.get? "error" with
  | some error => .error (.reported method ((error.string? "message").getD "unknown error"))
  | none =>
    match answer.get? "result" with
    | some result => .ok result
    | none => .error (.noResult method)

/-- The address of a deployed contract, from the receipt of a transaction that succeeded. -/
def contractAddress (receipt : Json) : Except RpcError String :=
  let status := receipt.string? "status"
  if status.bind parseQuantity = some 1 then
    match receipt.string? "contractAddress" with
    | some address => .ok address
    | none => .error .noContractAddress
  else .error (.reverted status)

/-- How often a receipt is asked for, half a second apart. -/
def receiptPolls : Nat := 20

/-- The gas that a deployment may use. -/
def deploymentGas : String := "0x895440"

/-- Opens a connection, which has made no call yet. -/
def connect (url : String) : Session Connection := do
  let st ← get
  set { st with calls := st.calls ++ [0] }
  return ⟨url, st.calls.length⟩

end Rpc

namespace Connection

open Rpc

/-- Numbers of calls count from one, those of failing calls too. -/
def nextId (c : Connection) : Session Nat := do
  let st ← get
  let id := st.calls.getD c.slot 0 + 1
  set { st with calls := st.calls.set c.slot id }
  return id

/-- What a call sends. -/
def callBody (id : Nat) (method : String) (params : Json) : Json :=
  .obj [("jsonrpc", .str "2.0"), ("id", .int id), ("method", .str method), ("params", params)]

/-- Calls a method and takes the result from its answer. -/
def call (c : Connection) (method : String) (params : Json) : Session Json := do
  let id ← c.nextId
  let reply ← Session.sendChecked ⟨"POST", c.url, [], some (callBody id method params)⟩
  ofExcept ((resultOf method (← Session.parseBody reply)).mapError .rpc)

/-- The code at an address in hexadecimal; an account without code has none. -/
def code (c : Connection) (address : String) : Session (Option String) := do
  match ← c.call "eth_getCode" (.ofStrings [address, "latest"]) with
  | .str text =>
    let digits := (Text.textAfter? "0x" text).getD text
    return if digits = "" then none else some digits
  | _ => throw (.rpc .codeNotText)

def chainId (c : Connection) : Session Nat := do
  let result ← c.call "eth_chainId" (.arr [])
  Action.require (.rpc (.badChainId result)) (result.asString?.bind parseQuantity)

def accounts (c : Connection) : Session (List String) := do
  let result ← c.call "eth_accounts" (.arr [])
  Action.require .serialization (Json.listOf Json.asString? result)

/-- Asks for a receipt until it is there, `polls` times at most. -/
def receipt (c : Connection) (hash : String) : Nat → Session Json
  | 0 => throw (.timeout ("receipt for " ++ hash) (receiptPolls / 2))
  | polls + 1 => do
    let receipt ← c.call "eth_getTransactionReceipt" (.ofStrings [hash])
    if receipt.isNull then c.receipt hash polls else return receipt

/-- The transaction that deploys code from an account. -/
def deployment (sender : String) (data : List UInt8) : Json :=
  .obj [("from", .str sender), ("gas", .str deploymentGas),
    ("data", .str ("0x" ++ Text.Hex.encode data))]

/-- Deploys code and gives the address of the new contract. -/
def deploy (c : Connection) (sender : String) (data : List UInt8) : Session String := do
  match ← c.call "eth_sendTransaction" (.arr [deployment sender data]) with
  | .str hash =>
    ofExcept ((contractAddress (← c.receipt hash receiptPolls)).mapError .rpc)
  | _ => throw (.rpc .noHash)

end Connection

end DeployCheck
