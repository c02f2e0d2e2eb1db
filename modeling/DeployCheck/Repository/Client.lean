import DeployCheck.Repository.Link
import DeployCheck.Repository.Search
import DeployCheck.Session

/-!
Files of repositories, read through the contents interface.
-/
namespace DeployCheck.Repository

/-- Access to the contents interface, with a token or without. -/
structure Client where
  token : Option String
deriving DecidableEq, Repr

namespace Client

/-- What a header may hold: no control characters but tabs. -/
def isHeaderChar (c : Char) : Bool := c == '\t' || (' ' ≤ c && c != '\x7f')

/-- A client with a token that a header can carry. -/
def withToken (token : Option String) : Except Failure Client :=
  if (token.getD "").toList.all isHeaderChar then .ok ⟨token⟩
  else .error (.configuration .invalidToken)

def headers (c : Client) (accept : String) : List (String × String) :=
  [("accept", accept), ("user-agent", "veriscan/0.1.0")] ++
    match c.token with
    | some token => [("authorization", "token " ++ token)]
    | none => []

def rawFile : String := "application/vnd.github.raw+json"

def listing : String := "application/vnd.github+json"

/-- What is found at an address; what is not found there is absent. -/
def get (c : Client) (url accept : String) : Session (Option Reply) := do
  let reply ← Session.send { Request.get url with headers := c.headers accept }
  if reply.status = 404 then return none
  if Session.isErrorStatus reply.status then throw .http
  return some reply

/-- The repository that a reference links to. -/
def linked (r : RepositoryRef) : Session String :=
  ofExcept ((parseLink r.url).mapError .configuration)

/-- The text of the file at `path` below a directory. Its bytes are taken for UTF-8, whatever the
answer says of them. -/
def fileAt (c : Client) (r : RepositoryRef) (directory path : String) :
    Session (Option String) := do
  let repository ← linked r
  let reply ← c.get (contentsUrl repository directory path r.commit) rawFile
  return reply.map fun found => found.body.text

def kindOf (text : String) : EntryKind :=
  if text = "file" then .file else if text = "dir" then .directory else .other

open Json.Fields in
def entryOf (j : Json) : Option Entry := do
  let fields ← j.fields? ["name", "path", "type"] 3
  return {
    name := ← required Json.asString? fields "name"
    path := ← required Json.asString? fields "path"
    kind := kindOf (← required Json.asString? fields "type") }

/-- The entries of a directory; what is no listing has none. -/
def entries (c : Client) (r : RepositoryRef) (directory : String) : Session (List Entry) := do
  let repository ← linked r
  match ← c.get (contentsUrl repository "" directory r.commit) listing with
  | none => return []
  | some reply => return (Json.listOf entryOf (← Session.parseBody reply)).getD []

/-- The directories of a repository. -/
def tree (c : Client) (r : RepositoryRef) : Tree Session := ⟨c.fileAt r, c.entries r⟩

/-- Reads a file; a recursive fetch looks for it in the whole repository. -/
def fetch (c : Client) (recursive : Bool) (r : RepositoryRef) (path : String) :
    Session (Option String) := do
  if !recursive then c.fileAt r r.root path
  else
    let limit := (← read).directoryLimit
    match ← search (c.tree r) limit r.root path with
    | .text content => return some content
    | .absent => return none
    | .unfinished => throw (.search limit)

end Client

end DeployCheck.Repository
