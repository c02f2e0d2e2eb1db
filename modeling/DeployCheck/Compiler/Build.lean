import DeployCheck.Failure
import DeployCheck.Hash.Keccak
import DeployCheck.Json.Parser
import DeployCheck.Json.Record

/-!
Builds of the compiler: the list that names them, and the digests that identify their programs.
-/
namespace DeployCheck

/-- A compiler build as its platform's list describes it. -/
structure Build where
  path : String
  version : String
  /-- The version with the commit it was built from. -/
  longVersion : String
  keccak256 : String
  sha256 : String
deriving DecidableEq, Repr

namespace Build

def fieldNames : List String := ["path", "version", "longVersion", "keccak256", "sha256"]

open Json.Fields in
def ofJson (j : Json) : Option Build := do
  let fields ← j.fields? fieldNames 4
  return {
    path := ← required Json.asString? fields "path"
    version := ← required Json.asString? fields "version"
    longVersion := ← required Json.asString? fields "longVersion"
    keccak256 := ← required Json.asString? fields "keccak256"
    sha256 := ← withDefault "" Json.asString? fields "sha256" }

/-- The shape of the list of a platform's builds. -/
def listShape : Json.Shape := .record [("builds", .list (.plain fieldNames))]

/-- The builds of a platform. -/
def listOfJson (j : Json) : Option (List Build) := do
  let fields ← j.fields? ["builds"] 1
  Json.Fields.required (Json.listOf ofJson) fields "builds"

/-- A version without the letter that explorers put in front of it. -/
def plainVersion (version : String) : String := (Text.textAfter? "v" version).getD version

/-- The first build of a version. -/
def find? (builds : List Build) (version : String) : Option Build :=
  builds.find? fun b => b.longVersion == plainVersion version

/-- A digest in hexadecimal without a marker. -/
def plainDigest (digest : String) : String := (Text.textAfter? "0x" digest).getD digest

/-- The digest of a program in lowercase hexadecimal. -/
def digestOf (program : List UInt8) : String := Text.Hex.encode (Hash.Keccak.digest program)

/-- Whether a program has a digest, given in either letter case. -/
def hasDigest (program : List UInt8) (digest : String) : Bool :=
  (plainDigest digest).map Char.toLower == digestOf program

/-- Fails unless a program has the digest expected. -/
def checkDigest (program : List UInt8) (digest : String) : Except CompilerError Unit :=
  if hasDigest program digest then .ok ()
  else .error (.checksum (plainDigest digest) (digestOf program))

end Build

end DeployCheck
