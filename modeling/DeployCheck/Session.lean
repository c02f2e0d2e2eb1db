import DeployCheck.Failure
import DeployCheck.Files.Basic
import DeployCheck.Json.Parser
import DeployCheck.LineDiff.Unified
import DeployCheck.Source.Basic
import DeployCheck.Text.Terminal

/-!
Sessions: computations that send requests, use files and run programs. The world that answers them
is fixed, and an answer may depend on all requests sent before; what a session leaves behind is its
state, which is kept when it fails.
-/
namespace DeployCheck

/-- The value that bytes are as JSON. -/
def Blob.json? (b : Blob) : Option Json := b.text?.bind Json.parse?

structure Request where
  /-- `GET` or `POST`. -/
  method : String
  url : String
  headers : List (String × String)
  body : Option Json

/-- A request without headers of its own. -/
def Request.get (url : String) : Request := ⟨"GET", url, [], none⟩

/-- What a request is answered with in the end, behind all redirects. The body is without transfer
and content coding. -/
structure Reply where
  status : Nat
  body : Blob

/-- How a program ends. -/
structure Outcome where
  status : Nat
  output : Blob
  complaint : Blob
deriving DecidableEq, Repr

/-- Why a program that could be run has no outcome. -/
inductive Obstacle where
  /-- The system does not take its file for a program. -/
  | unfit
  /-- It closes its input before it has all of it. -/
  | deaf
  /-- It does not end in time. -/
  | late
deriving DecidableEq, Repr

/-- How a local node ends. -/
structure Ending where
  status : Nat
  complaint : Blob
deriving DecidableEq, Repr

/-- How a local node behaves once it is started. -/
inductive NodeBehaviour where
  | exits (ending : Ending)
  | listens
  /-- It goes on, but nobody reaches its port. -/
  | hangs
deriving DecidableEq, Repr

/-- How the outside behaves. -/
structure World where
  /-- The answer to a request after those sent before; `none` if there is no connection. -/
  reply : List Request → Request → Option Reply
  environment : String → Option String
  /-- How a compiler program ends on an input, unless something is in its way. -/
  compiler : Blob → CompilerInput → Outcome
  node : NodeBehaviour
  /-- Ports taken before any node starts. -/
  isBusy : String → Nat → Bool
  /-- How many directories a repository search visits after its first. -/
  directoryLimit : Nat
  /-- The time, in seconds, at which the program was started. -/
  startTime : Nat
  /-- Whether what is printed is shown on a terminal. -/
  isTerminal : Bool := false
  /-- What keeps a compiler program from ending on an input. -/
  obstacle : Blob → CompilerInput → Option Obstacle := fun _ _ => none
  /-- How the lines of two texts are matched. -/
  differ : LineDiff.Differ := .shortest

/-- An error event of the log: its text and its fields. -/
structure Event where
  text : String
  fields : List (String × String)
deriving DecidableEq, Repr

/-- An event as the log shows it. -/
def Event.line (e : Event) : String :=
  Text.Terminal.text e.text ++ String.join (e.fields.map fun f => " " ++ f.1 ++ "=" ++ f.2)

/-- A run of a compiler: its path, the program stored there, and its input. -/
structure Compilation where
  path : String
  program : Blob
  input : CompilerInput
deriving Repr

structure State where
  /-- The requests sent, in order. Those that redirects lead to are not among them. -/
  requests : List Request := []
  files : Files := {}
  /-- How many calls each connection has made. -/
  calls : List Nat := []
  compilations : List Compilation := []
  /-- The command lines of the nodes started. -/
  nodes : List (List String) := []
  /-- Lines printed, in order. -/
  printed : List String := []
  events : List Event := []

/-- A computation in the world that may fail with an `ε`. -/
abbrev Action (ε : Type) := ReaderT World (ExceptT ε (StateM State))

abbrev Session := Action Failure

namespace Action

variable {ε δ α : Type}

/-- Runs an action to its result and the state it leaves. -/
def run (a : Action ε α) (w : World) (st : State) : Except ε α × State := ReaderT.run a w st

/-- The same action with its failures seen through `f`. -/
def mapFailure (f : ε → δ) (a : Action ε α) : Action δ α := fun w => ExceptT.adapt f (a w)

/-- The value of an option, or a failure. -/
def require (e : ε) : Option α → Action ε α
  | some a => pure a
  | none => throw e

def files : Action ε Files := do return (← get).files

def print (line : String) : Action ε Unit :=
  modify fun st => { st with printed := st.printed ++ [line] }

def record (event : Event) : Action ε Unit :=
  modify fun st => { st with events := st.events ++ [event] }

end Action

namespace Session

open DeployCheck.Action

/-- Sends a request; its URL has to be one of the web. -/
def send (r : Request) : Session Reply := do
  match Url.parse r.url with
  | .ok url => if !url.isWeb then throw .http
  | .error _ => throw .http
  let w ← read
  let st ← get
  set { st with requests := st.requests ++ [r] }
  require .http (w.reply st.requests r)

def isErrorStatus (status : Nat) : Bool := 400 ≤ status && status ≤ 599

/-- Sends a request that fails on an error status. -/
def sendChecked (r : Request) : Session Reply := do
  let reply ← send r
  if isErrorStatus reply.status then throw .http
  return reply

def parseBody (reply : Reply) : Session Json := require .http reply.body.json?

/-- An environment variable that is not empty. -/
def setting? (name : String) : Session (Option String) := do
  return ((← read).environment name).filter (· != "")

def setFiles : Option Files → Session Unit
  | some fs => modify fun st => { st with files := fs }
  | none => throw .io

def contentsOf (path : String) : Session Blob := do
  require .io ((← files).contents? path)

/-- The text of a file. -/
def readFile (path : String) : Session String := do
  require .io ((← files).read? path)

def makeDirectories (path : String) : Session Unit := do
  setFiles ((← files).makeDirectories? path)

def writeFile (path : String) (contents : Blob) (executable : Bool) : Session Unit := do
  setFiles ((← files).write? path contents executable)

end Session

end DeployCheck
