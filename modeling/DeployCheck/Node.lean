import DeployCheck.Session

/-!
The local node that compiled code is deployed to: the address it listens at, the command that
starts it, and why it does not start.
-/
namespace DeployCheck

/-- A local node that continues a remote chain. -/
structure LocalNode where
  /-- The directory that the node is run in. -/
  directory : String
  config : String
  localUrl : String
  remoteUrl : String
deriving DecidableEq, Repr

namespace LocalNode

/-- The host and the port of an address, which has to name both. -/
def hostAndPort (url : String) : Except NodeError (String × Nat) :=
  match Url.parse url with
  | .error cause => .error (.invalidUrl url cause)
  | .ok parsed =>
    match parsed.host with
    | none => .error (.noHost url)
    | some host =>
      match parsed.port with
      | none => .error (.noPort url)
      | some port => .ok (host.text, port)

/-- The arguments that start the node. -/
def commandLine (n : LocalNode) (host : String) (port : Nat) : List String :=
  ["hardhat", "node", "--hostname", host, "--port", toString port, "--config", n.config, "--fork",
    n.remoteUrl]

/-- Fails unless a program can be run in a directory with some arguments. -/
def checkSpawn (fs : Files) (directory : String) (arguments : List String) :
    Except Path.Error Unit :=
  if arguments.any fun a => a.toList.contains '\x00' then .error .nullCharacter
  else fs.checkDirectory directory

/-- How long the node may take until it listens. -/
def startSeconds : Nat := 5

/-- Starts the node; it then listens at its address until it is stopped. -/
def start (n : LocalNode) : Session Unit := do
  let (host, port) ← ofExcept ((hostAndPort n.localUrl).mapError .node)
  let fs ← Action.files
  if !fs.isFile n.config then throw (.node (.noConfig n.config))
  let w ← read
  if w.isBusy host port then throw (.node (.busy host port))
  let arguments := n.commandLine host port
  ofExcept ((checkSpawn fs n.directory arguments).mapError fun e => .node (.notSpawned e))
  modify fun st => { st with nodes := st.nodes ++ [arguments] }
  match w.node with
  | .exits ending =>
    let complaint ← Action.require .io ending.complaint.text?
    throw (.node (.exited ⟨ending.status, complaint⟩))
  | .hangs => throw (.timeout "hardhat node start" startSeconds)
  | .listens => return ()

end LocalNode

end DeployCheck
