import DeployCheck.Config.Basic

/-!
Where a repository keeps its files: the owner and name that a link gives, and the addresses of the
contents interface.
-/
namespace DeployCheck.Repository

/-- The path of a link up to its view of a tree, without slashes around it. -/
def linkPath (url : Url) : List Char :=
  Text.upTo "/tree".toList (Text.dropAround '/' (String.ofList url.path)).toList

/-- The repository that a link names, as `owner/name`. -/
def parseLink (link : String) : Except ConfigurationError String :=
  match Url.parse link with
  | .error cause => .error (.invalidRepositoryUrl link cause)
  | .ok url =>
    match (Text.split '/' (linkPath url)).filter (· != []) with
    | owner :: name :: _ =>
      .ok (String.ofList (owner ++ '/' :: Text.withoutEnds ".git".toList name))
    | _ => .error (.unnamedRepository link)

/-- A slash and a path without slashes around it; nothing for a path of slashes only. -/
def segment (path : String) : String :=
  let inner := Text.dropAround '/' path
  if inner = "" then "" else "/" ++ inner

/-- The address of the contents at `path` below `root`, at a commit if one is given. -/
def contentsUrl (repository root path commit : String) : String :=
  "https://api.github.com/repos/" ++ repository ++ "/contents" ++ segment root ++ segment path ++
    (if commit = "" then "" else "?ref=" ++ commit)

end DeployCheck.Repository
