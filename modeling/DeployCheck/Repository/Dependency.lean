import DeployCheck.Config.Basic

/-!
Imported packages: which dependency a source path belongs to, and the path inside it.
-/
namespace DeployCheck.Repository

/-- The entry with the longest name; of names of one length the last. -/
def longest {α : Type} : List (String × α) → Option (String × α)
  | [] => none
  | d :: rest =>
    match longest rest with
    | some best => if d.1.utf8ByteSize ≤ best.1.utf8ByteSize then some best else some d
    | none => some d

/-- The dependency with the longest name that `path` starts with. -/
def dependencyOf {α : Type} (path : String) (dependencies : List (String × α)) :
    Option (String × α) :=
  longest (dependencies.filter fun d => Text.startsWith d.1 path)

/-- The path inside a dependency: what follows its name and the slashes after it. -/
def pathInside (name path : String) : String :=
  match Text.textAfter? name path with
  | some rest => Text.dropLeading '/' rest
  | none => path

/-- The repository that holds a source file, and the file's path in it. -/
def locate (config : Config) (path : String) : RepositoryRef × String :=
  match dependencyOf path config.dependencies with
  | some (name, repository) => (repository, pathInside name path)
  | none => (config.repository, path)

end DeployCheck.Repository
