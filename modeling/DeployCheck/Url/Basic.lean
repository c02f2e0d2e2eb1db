import DeployCheck.Url.Authority

/-!
Absolute URLs by the URL standard: scheme, host, port and path. User information, query and
fragment are read over.
-/
namespace DeployCheck

structure Url where
  scheme : String
  host : Option Url.Host
  port : Option Nat
  path : List Char
deriving DecidableEq, Repr

namespace Url

/-- Without controls and spaces at the ends and without tabs and line breaks. -/
def cleaned (cs : List Char) : List Char :=
  let isEdge (c : Char) : Bool := c.toNat ≤ 0x20
  let front := cs.dropWhile isEdge
  let both := (front.reverse.dropWhile isEdge).reverse
  both.filter fun c => c != '\t' && c != '\n' && c != '\r'

def isSchemeChar (c : Char) : Bool := c.isAlphanum || c == '+' || c == '-' || c == '.'

/-- The scheme in lowercase and what follows its colon. -/
def splitScheme (cs : List Char) : Option (String × List Char) :=
  match cs.takeWhile isSchemeChar, cs.dropWhile isSchemeChar with
  | c :: name, ':' :: rest =>
    if c.isAlpha then some (String.ofList ((c :: name).map Char.toLower), rest) else none
  | _, _ => none

/-- What follows the slashes of a special scheme, or two slashes of any other. -/
def ofAuthority (scheme : String) (cs : List Char) : Except Error Url := do
  let (authority, rest) ← Authority.read scheme cs
  return ⟨scheme, authority.host, authority.port, Path.afterAuthority (isSpecial scheme) rest⟩

/-- The file of a path without a host. -/
def ofFilePath (scheme : String) (cs : List Char) : Url :=
  ⟨scheme, none, none, Path.ofFile (Path.trail true true cs)⟩

/-- The host of a file; there is none without a text, and `localhost` is none. -/
def fileHost (cs : List Char) : Except Error (Option Host) :=
  if cs.isEmpty then .ok none
  else (Host.ofSpecial cs).map fun host =>
    if host = .domain "localhost".toList then none else some host

/-- What follows two slashes behind the scheme of a file. A drive is no host, and a path that
begins with one has none. -/
def ofFileHost (scheme : String) (cs : List Char) : Except Error Url := do
  let text := cs.takeWhile fun c => !Authority.isEnd true c
  if Path.isDrive text then return ofFilePath scheme cs
  let rest := cs.drop text.length
  match ← fileHost text with
  | none => return ofFilePath scheme rest
  | some host =>
    let trail := Path.trail true true (Path.afterSlash true rest)
    return ⟨scheme, if trail.fromDrive then none else some host, none, Path.ofFile trail⟩

/-- What follows the scheme of a file. -/
def ofFile (scheme : String) (cs : List Char) : Except Error Url :=
  match cs with
  | a :: b :: rest =>
    if Path.isSlash true a && Path.isSlash true b then ofFileHost scheme rest
    else .ok (ofFilePath scheme (Path.afterSlash true cs))
  | _ => .ok (ofFilePath scheme (Path.afterSlash true cs))

def parse (text : String) : Except Error Url :=
  match splitScheme (cleaned text.toList) with
  | none => .error .relativeWithoutBase
  | some (scheme, rest) =>
    if isFile scheme then ofFile scheme rest
    else if isSpecial scheme then ofAuthority scheme (rest.dropWhile (Path.isSlash true))
    else match rest with
      | '/' :: '/' :: rest => ofAuthority scheme rest
      | '/' :: rest => .ok ⟨scheme, none, none, (Path.trail false false rest).text⟩
      | _ => .ok ⟨scheme, none, none, Path.asOpaque rest⟩

/-- Whether requests can be sent there. -/
def isWeb (u : Url) : Bool := (u.scheme == "http" || u.scheme == "https") && u.host.isSome

end Url

end DeployCheck
