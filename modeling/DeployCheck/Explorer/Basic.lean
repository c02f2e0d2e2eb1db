import DeployCheck.Session
import DeployCheck.Source.Basic

/-!
Block explorers: which kind of interface a host offers, where it is asked for a contract, and what
its answers say.
-/
namespace DeployCheck

/-- The kinds of explorer interfaces. -/
inductive ExplorerKind where
  | etherscan
  /-- An interface of the first kind that takes no token. -/
  | etherscanNoToken
  | blockscout
  | zksync
  | mantle
deriving DecidableEq, Repr

namespace ExplorerKind

/-- The kinds of hosts by the end of their names. -/
def byEnding : List (String × ExplorerKind) :=
  [("mantle.xyz", .mantle), ("lineascan.build", .etherscanNoToken), ("mode.network", .blockscout),
    ("blockscout.com", .blockscout), ("swellnetwork.io", .blockscout), ("lisk.com", .blockscout)]

/-- The kind of a host. The beginning of its name decides before its end, and a host of no known
name is of the first kind. -/
def ofHost (host : String) : ExplorerKind :=
  if Text.startsWith "zksync" host then .zksync
  else ((byEnding.find? fun e => Text.endsWith e.1 host).map Prod.snd).getD .etherscan

end ExplorerKind

structure Explorer where
  host : String
  token : Option String
  chainId : Option Nat
deriving DecidableEq, Repr

namespace Explorer

def kind (x : Explorer) : ExplorerKind := .ofHost x.host

/-- Where the source of the contract at `address` is asked for. -/
def sourceUrl (x : Explorer) (address : String) : String :=
  let base := "https://" ++ x.host
  match x.kind with
  | .zksync => base ++ "/contract_verification/info/" ++ address
  | .blockscout => base ++ "/api/v2/smart-contracts/" ++ address
  | kind =>
    let chain := match x.chainId with
      | some id => "&chainid=" ++ toString id
      | none => ""
    let token := match kind, x.token with
      | .etherscan, some token => "&apikey=" ++ token
      | _, _ => ""
    base ++ "/api?module=contract&action=getsourcecode&address=" ++ address ++ chain ++ token

/-! ## Answers -/

abbrev Parsed := Except Failure

def stringField (j : Json) (key : String) : Parsed String :=
  match j.string? key with
  | some s => .ok s
  | none => .error (.explorer (.missingField key))

def valueField (j : Json) (key : String) : Parsed Json :=
  match j.get? key with
  | some v => .ok v
  | none => .error (.explorer (.missingField key))

def orSerialization {α : Type} : Option α → Parsed α
  | some a => .ok a
  | none => .error .serialization

/-- The first entry of an Etherscan answer, which has to hold source code. -/
def firstResult (body : Json) : Parsed Json :=
  if body.string? "status" == some "0" then
    let detail := (body.string? "result").or (body.string? "message")
    .error (.explorer (.refused (detail.getD "unknown error")))
  else
    match ((body.get? "result").bind Json.asArray?).bind List.head? with
    | none => .error (.explorer .emptyResult)
    | some result => do
      if (← stringField result "SourceCode") = "" then throw (.explorer .notVerified)
      return result

/-- Standard settings from the fields of an Etherscan entry. -/
def settingsOf (result : Json) : Json :=
  Settings.standard (result.string? "OptimizationUsed" == some "1")
    (Settings.runsOf (result.get? "Runs")) (result.string? "EVMVersion")

/-- What stands between a doubled pair of braces. -/
def doubleBraced? (code : String) : Option (List Char) :=
  (Text.after? ['\x7b', '\x7b'] code.toList).bind fun rest =>
    Text.before? ['\x7d', '\x7d'] rest

/-- Standard JSON input with our output selection. -/
def selected (input : CompilerInput) : CompilerInput :=
  { input with settings := Settings.select input.settings }

/-- The input of an Etherscan entry: standard JSON in an extra pair of braces, a map of sources, or
a single file. -/
def etherscanInput (name code : String) (result : Json) : Parsed CompilerInput :=
  match doubleBraced? code with
  | some inner => do
    let text := String.ofList ('\x7b' :: inner ++ ['\x7d'])
    let input ← orSerialization
      ((Json.parseAs? CompilerInput.shape text).bind CompilerInput.ofJson)
    return selected input
  | none => do
    let sources ←
      if (Text.trimStart code.toList).head? = some '\x7b' then
        orSerialization
          ((Json.parseAs? CompilerInput.sourcesShape code).bind CompilerInput.sourcesOf)
      else pure [(name ++ ".sol", code)]
    return ⟨"Solidity", sources, settingsOf result⟩

def parseEtherscan (body : Json) : Parsed VerifiedSource := do
  let result ← firstResult body
  let name ← stringField result "ContractName"
  let version ← stringField result "CompilerVersion"
  let code ← stringField result "SourceCode"
  return ⟨name, version, ← etherscanInput name code result⟩

/-- The main file and the files listed beside it; a path listed again takes the later content. -/
def withExtras (path content : String) (extras : Option Json) (pathKey contentKey : String) :
    Parsed (List (String × String)) := do
  let items := (extras.bind Json.asArray?).getD []
  let files ← items.mapM fun item => do
    let path ← stringField item pathKey
    return (path, ← stringField item contentKey)
  return Json.insertAll ((path, content) :: files)

/-- An answer of the first kind that lists further files beside the main one. -/
def parseMantle (body : Json) : Parsed VerifiedSource := do
  let result ← firstResult body
  let code ← stringField result "SourceCode"
  if code.toList.head? = some '\x7b' then parseEtherscan body
  else
    let name ← stringField result "ContractName"
    let path := (result.string? "FileName").getD name
    let sources ←
      withExtras path code (result.get? "AdditionalSources") "Filename" "SourceCode"
    let version ← stringField result "CompilerVersion"
    return ⟨name, version, "Solidity", sources, settingsOf result⟩

def blockscoutSettings (body : Json) : Json :=
  match body.get? "compiler_settings" with
  | some (.obj members) => Settings.select (.obj members)
  | _ =>
    Settings.standard (((body.get? "optimization_enabled").bind Json.asBool?).getD false)
      (Settings.runsOf (body.get? "optimization_runs")) (body.string? "evm_version")

def parseBlockscout (body : Json) : Parsed VerifiedSource := do
  if (body.get? "is_verified").bind Json.asBool? = some false then
    throw (.explorer .notVerified)
  let name ← stringField body "name"
  let path := (body.string? "file_path").getD name
  let content ← stringField body "source_code"
  let sources ←
    withExtras path content (body.get? "additional_sources") "file_path" "source_code"
  let version ← stringField body "compiler_version"
  return ⟨name, version, "Solidity", sources, blockscoutSettings body⟩

/-- A qualified name: the path before the last colon, if there is one, and the name after it. -/
def splitQualified (qualified : String) : Option String × String :=
  let cs := qualified.toList
  let name := (cs.reverse.takeWhile (· != ':')).reverse
  let path :=
    if name.length = cs.length then none
    else some (String.ofList (cs.take (cs.length - name.length - 1)))
  (path, String.ofList name)

def zksyncInput (path : String) (request source : Json) : Parsed CompilerInput :=
  match source with
  | .str code =>
    let optimize := ((request.get? "optimizationUsed").bind Json.asBool?).getD true
    .ok ⟨"Solidity", [(path, code)], Settings.standard optimize 200 none⟩
  | _ =>
    if (source.get? "sources").isSome then
      (orSerialization (CompilerInput.ofJson source)).map selected
    else .error (.explorer .unsupportedSource)

def parseZksync (body : Json) : Parsed VerifiedSource := do
  let request ← valueField body "request"
  let (path, name) := splitQualified (← stringField request "contractName")
  let version ← stringField request "compilerSolcVersion"
  let version := if version.toList.head? = some 'v' then version else "v" ++ version
  let source ← valueField request "sourceCode"
  return ⟨name, version, ← zksyncInput (path.getD (name ++ ".sol")) request source⟩

/-- What an explorer of the given kind reports. -/
def parse : ExplorerKind → Json → Parsed VerifiedSource
  | .etherscan | .etherscanNoToken => parseEtherscan
  | .mantle => parseMantle
  | .blockscout => parseBlockscout
  | .zksync => parseZksync

/-- Asks the explorer for the verified source of a contract. -/
def fetch (x : Explorer) (address : String) : Session VerifiedSource := do
  let reply ← Session.sendChecked (.get (x.sourceUrl address))
  let body ← Session.parseBody reply
  ofExcept (parse x.kind body)

end Explorer

end DeployCheck
