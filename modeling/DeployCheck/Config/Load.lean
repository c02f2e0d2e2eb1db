import DeployCheck.Config.Basic
import DeployCheck.Session

/-!
Configurations in files, and the settings that they take from the environment.
-/
namespace DeployCheck.Config

open DeployCheck.Action DeployCheck.Session

/-- Loads a configuration file, which has to be named as JSON. -/
def load (path : String) : Session Config := do
  let extension := (Path.extension? path).getD ""
  if extension != "json" then
    throw (.configuration (.unsupportedExtension extension path))
  ofExcept (parse (← readFile path))

/-- The configuration files of a path: itself, or those in the directory in ascending order. -/
def pathsIn (path : String) : Session (List String) := do
  let fs ← files
  if !fs.isDirectory path then return [path]
  let found := ((fs.namesIn path).map (Path.join path)).filter fun p =>
    fs.isFile p && Path.extension? p == some "json"
  if found.isEmpty then throw (.configuration (.noConfigFiles path))
  return found

/-- The explorer's host, given in place or by a variable. -/
def resolveHost (c : Config) : Session String := do
  match c.explorerHost with
  | some host => return host
  | none =>
    let name := c.explorerHostVariable.getD ""
    require (.configuration (.unsetVariable name)) (← setting? name)

/-- The explorer's token, if a variable for it is named and set. -/
def resolveToken (c : Config) : Session (Option String) := do
  match c.explorerTokenVariable with
  | some name => setting? name
  | none => return none

end DeployCheck.Config
