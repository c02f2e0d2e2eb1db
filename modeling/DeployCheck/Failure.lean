import DeployCheck.Abi.Ty
import DeployCheck.Bytecode.Comparison
import DeployCheck.Files.Path
import DeployCheck.Url.Basic

/-!
Why a verification stops. Each part of the work has its own causes; `Failure.message` is the text
that a user reads.
-/
namespace DeployCheck

inductive ConfigurationError where
  | unsupportedExtension (extension path : String)
  | noContracts
  | invalidAddress (text : String)
  | noExplorer
  | incompleteRepository
  | unlistedContract (address : String)
  | unsetVariable (name : String)
  | noConfigFiles (path : String)
  | invalidRepositoryUrl (url : String) (cause : Url.Error)
  | unnamedRepository (url : String)
  | invalidToken
  | noRemoteUrl
  | otherChain (actual expected : Nat)
deriving DecidableEq, Repr

def ConfigurationError.message : ConfigurationError → String
  | .unsupportedExtension extension path =>
    "unsupported config file extension " ++ Text.Quoted.text extension ++ " for " ++ path
  | .noContracts => "contracts must list at least one address"
  | .invalidAddress text => "invalid contract address: " ++ text
  | .noExplorer => "either explorer_hostname or explorer_hostname_env_var must be set"
  | .incompleteRepository => "github_repo needs both url and commit"
  | .unlistedContract address => "constructor data given for unlisted contract " ++ address
  | .unsetVariable name => "environment variable " ++ name ++ " is not set"
  | .noConfigFiles path => "no config files found in " ++ path
  | .invalidRepositoryUrl url cause => "invalid repo url " ++ url ++ ": " ++ cause.message
  | .unnamedRepository url => "repo url " ++ url ++ " does not name owner/repo"
  | .invalidToken => "GitHub token is not a valid header"
  | .noRemoteUrl => "REMOTE_RPC_URL is required for bytecode comparison"
  | .otherChain actual expected => s!"remote RPC is on chain {actual}, config expects {expected}"

inductive ExplorerError where
  | missingField (key : String)
  | refused (detail : String)
  | emptyResult
  | notVerified
  | unsupportedSource
  | nameMismatch (reported expected : String)
deriving DecidableEq, Repr

def ExplorerError.message : ExplorerError → String
  | .missingField key => "response is missing \x60" ++ key ++ "\x60"
  | .refused detail => "explorer returned NOTOK: " ++ detail
  | .emptyResult => "empty result"
  | .notVerified => "contract is not verified"
  | .unsupportedSource => "unsupported zkSync sourceCode format"
  | .nameMismatch reported expected =>
    "contract name mismatch: explorer reports " ++ reported ++ ", config expects " ++ expected

/-- How a process that ended in failure is reported. -/
structure Exit where
  status : Nat
  complaint : String
deriving DecidableEq, Repr

def Exit.message (e : Exit) : String :=
  s!"exited with exit status: {e.status}: " ++ Text.stripped e.complaint

inductive CompilerError where
  | unknownVersion (version platform : String)
  | checksum (expected actual : String)
  | exited (exit : Exit)
  | reported (messages : List String)
  | missingOutput (path : List String)
  | noContract (name : String)
  | manyContracts (name : String)
deriving DecidableEq, Repr

def CompilerError.message : CompilerError → String
  | .unknownVersion version platform => "compiler " ++ version ++ " not found for " ++ platform
  | .checksum expected actual =>
    "compiler checksum mismatch: expected " ++ expected ++ ", got " ++ actual
  | .exited exit => "solc " ++ exit.message
  | .reported messages => String.intercalate "\n" messages
  | .missingOutput path => "compiler output lacks " ++ String.join (path.map ("/" ++ ·))
  | .noContract name => "contract " ++ name ++ " not found in compiler output"
  | .manyContracts name => "multiple contracts with the same name " ++ name

inductive NodeError where
  | invalidUrl (url : String) (cause : Url.Error)
  | noHost (url : String)
  | noPort (url : String)
  | noConfig (path : String)
  | busy (host : String) (port : Nat)
  /-- The directory to run in cannot be entered, or a text is none that a program can be given. -/
  | notSpawned (cause : Path.Error)
  | exited (exit : Exit)
deriving DecidableEq, Repr

def NodeError.message : NodeError → String
  | .invalidUrl url cause => "invalid local RPC url " ++ url ++ ": " ++ cause.message
  | .noHost url => "local RPC url " ++ url ++ " has no host"
  | .noPort url => "invalid local RPC url (TCP port not specified): " ++ url
  | .noConfig path => "failed to find Hardhat config at " ++ path
  | .busy host port => s!"{host}:{port} is busy"
  | .notSpawned cause => "failed to spawn npx: " ++ cause.message
  | .exited exit => "hardhat " ++ exit.message

inductive RpcError where
  | reported (method message : String)
  | noResult (method : String)
  | codeNotText
  | badChainId (result : Json)
  | noHash
  | reverted (status : Option String)
  | noContractAddress
  | noAccounts
  | noLocalCode (address : String)
  | noCode (address : String)

def RpcError.message : RpcError → String
  | .reported method message => method ++ ": " ++ message
  | .noResult method => method ++ ": response has no result"
  | .codeNotText => "eth_getCode returned a non-string"
  | .badChainId result => "bad eth_chainId result " ++ result.compact
  | .noHash => "eth_sendTransaction returned no hash"
  | .reverted status => "deployment reverted (status " ++ status.getD "missing" ++ ")"
  | .noContractAddress => "receipt has no contractAddress"
  | .noAccounts => "local node has no accounts"
  | .noLocalCode address => "no code at local deployment " ++ address
  | .noCode address => "no code deployed at " ++ address

inductive CalldataError where
  | givenTwice (address : String)
  | notGiven (address : String)
  | empty
deriving DecidableEq, Repr

def CalldataError.message : CalldataError → String
  | .givenTwice address =>
    "contract " ++ address ++ " found in both constructor_args and constructor_calldata"
  | .notGiven address =>
    "contract " ++ address ++
      " not found in constructor_args or constructor_calldata, but ABI has a constructor"
  | .empty => "contract calldata is empty"

inductive Failure where
  | configuration (cause : ConfigurationError)
  | explorer (cause : ExplorerError)
  | compiler (cause : CompilerError)
  | node (cause : NodeError)
  | rpc (cause : RpcError)
  | calldata (cause : CalldataError)
  | timeout (what : String) (seconds : Nat)
  /-- A repository search that visits too many directories. -/
  | search (limit : Nat)
  | compare (cause : Bytecode.CompareError)
  | encode (cause : Abi.EncodeError)
  | decode (cause : Text.Hex.Error)
  /-- A request without a usable answer. -/
  | http
  /-- A file or process that cannot be used. -/
  | io
  /-- A text that is no JSON of the form expected. -/
  | serialization

def Failure.message : Failure → String
  | .configuration cause => "Configuration error: " ++ cause.message
  | .explorer cause => "Explorer error: " ++ cause.message
  | .compiler cause => "Compiler error: " ++ cause.message
  | .node cause => "Node error: " ++ cause.message
  | .rpc cause => "RPC error: " ++ cause.message
  | .calldata cause => "Calldata error: " ++ cause.message
  | .timeout what seconds => s!"Timed out after {seconds} seconds: " ++ what
  | .search limit => s!"Search given up after {limit} directories"
  | .compare cause => "Bytecode comparison failed: " ++ cause.message
  | .encode cause => "ABI encoding failed: " ++ cause.message
  | .decode cause => "Decode error: " ++ Bytecode.decodeMessage cause
  | .http => "HTTP error"
  | .io => "IO error"
  | .serialization => "Serialization error"

end DeployCheck
