import DeployCheck.Failure
import DeployCheck.Json.Parser
import DeployCheck.Json.Record

/-!
Verified sources: the compiler's standard JSON input, and a contract as an explorer reports it.
-/
namespace DeployCheck

/-- The compiler's standard JSON input. -/
structure CompilerInput where
  language : String
  /-- Contents by path, in order. -/
  sources : List (String × String)
  settings : Json
deriving Repr

structure VerifiedSource where
  name : String
  /-- The compiler's long version. -/
  compilerVersion : String
  input : CompilerInput
deriving Repr

namespace CompilerInput

/-- A source file in JSON, an object with its content. -/
def contentOf (j : Json) : Option String := do
  let fields ← j.fields? ["content"] 1
  Json.Fields.required Json.asString? fields "content"

/-- The shape of files by their paths. -/
def sourcesShape : Json.Shape := .map (.plain ["content"])

def sourcesOf (j : Json) : Option (List (String × String)) := Json.mapOf contentOf j

def shape : Json.Shape :=
  .record [("language", .whole), ("sources", sourcesShape), ("settings", .whole)]

open Json.Fields in
def ofJson (j : Json) : Option CompilerInput := do
  let fields ← j.fields? ["language", "sources", "settings"] 2
  return {
    language := ← required Json.asString? fields "language"
    sources := ← required sourcesOf fields "sources"
    settings := ← withDefault .null (fun s => some s.merged) fields "settings" }

/-- Sources that a map of texts holds are replaced by its texts. -/
def withTexts (input : CompilerInput) (texts : List (String × String)) : CompilerInput :=
  { input with
    sources := input.sources.map fun s => (s.1, (Json.lookup s.1 texts).getD s.2) }

end CompilerInput

/-! ## Settings -/

namespace Settings

/-- The outputs asked of every compilation. -/
def outputSelection : Json :=
  .obj [("*", .obj [
    ("*", .ofStrings
      ["abi", "evm.bytecode", "evm.deployedBytecode", "evm.methodIdentifiers", "metadata"]),
    ("", .ofStrings ["ast"])])]

/-- Settings with our output selection; what is no object counts as empty. -/
def select (settings : Json) : Json := settings.set "outputSelection" outputSelection

/-- Whether an EVM version says something: it is neither empty nor the default. -/
def isNamedVersion (version : String) : Bool :=
  version != "" && version.map Char.toLower != "default"

/-- Settings for sources that come without their own. -/
def standard (optimize : Bool) (runs : Nat) (evmVersion : Option String) : Json :=
  let version := match evmVersion.filter isNamedVersion with
    | some v => [("evmVersion", Json.str v)]
    | none => []
  .obj ([("optimizer", .obj [("enabled", .bool optimize), ("runs", .int runs)]),
    ("outputSelection", outputSelection)] ++ version)

/-- The number of optimizer runs; 200 unless it is given as a number or its text. -/
def runsOf (j : Option Json) : Nat :=
  match j with
  | some (.str s) => (Text.wordOfDecimal s).getD 200
  | some j => j.asWord?.getD 200
  | none => 200

end Settings

/-- Fails unless the explorer reports the contract under the name expected. -/
def VerifiedSource.ensureName (s : VerifiedSource) (expected : String) : Except Failure Unit :=
  if s.name = expected then .ok () else .error (.explorer (.nameMismatch s.name expected))

end DeployCheck
