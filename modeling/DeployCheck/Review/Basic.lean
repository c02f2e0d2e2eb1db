import DeployCheck.LineDiff.Page
import DeployCheck.Repository.Dependency
import DeployCheck.Review.Table
import DeployCheck.Session
import DeployCheck.Source.Basic

/-!
Reviews of sources: every file that an explorer reports is compared with the repository's copy, and
a page for each is written below the run's directory.
-/
namespace DeployCheck

/-- The comparison of a contract's files with the repository. -/
structure Review where
  /-- A report per file of the explorer, in its order. -/
  files : List Review.FileReport
  /-- The repository's texts of the files that were found, by their paths. -/
  fetched : List (String × String)
deriving Repr

namespace Review

/-- What a missing file is compared with. -/
def placeholder : String := "<!-- No file content -->"

/-- How a file of a repository is read; an absent file is no failure. -/
abbrev Fetch := RepositoryRef → String → Session (Option String)

def contextLines : Nat := 3

/-- The directory for the pages of a contract. -/
def pageDirectory (directory address : String) : String :=
  Path.join (Path.join directory "diffs") address

/-- Writes the page for a file and gives its path. -/
def writePage (directory address filename page : String) : Session String := do
  let folder := pageDirectory directory address
  Session.makeDirectories folder
  let path := Path.join folder (filename ++ ".html")
  Session.writeFile path page false
  return path

/-- Compares a file with the repository's copy, if there is one, and writes the page for it. -/
def report (directory address : String) (index : Nat) (path content : String)
    (copy : Option String) : Session FileReport := do
  let filename := Text.afterLast '/' path
  let diff := LineDiff.compare contextLines (copy.getD placeholder) content (← read).differ
  let reportPath ← writePage directory address filename (LineDiff.Page.render path diff)
  return {
    index, filename, path, reportPath
    found := copy.isSome
    changed := diff.stats.changed
    origin := Text.beforeFirst '/' path }

/-- Reviews files one after the other and adds them to a review. -/
def extend (fetch : Fetch) (config : Config) (directory address : String) :
    Review → List (String × String) → Session Review
  | r, [] => pure r
  | r, (path, content) :: rest => do
    let (repository, inside) := Repository.locate config path
    let copy ← fetch repository inside
    let file ← report directory address (r.files.length + 1) path content copy
    let fetched := match copy with
      | some text => Json.insert path text r.fetched
      | none => r.fetched
    extend fetch config directory address ⟨r.files ++ [file], fetched⟩ rest

/-- Reviews all files of a source. -/
def run (fetch : Fetch) (config : Config) (directory address : String)
    (sources : List (String × String)) : Session Review :=
  extend fetch config directory address ⟨[], []⟩ sources

end Review

end DeployCheck
