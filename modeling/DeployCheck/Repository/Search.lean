import DeployCheck.Text.Split

/-!
Searching a repository for a file whose directory is not known. Directories are visited breadth
first, none twice; the full path counts in every directory before the bare file name does.
-/
namespace DeployCheck.Repository

inductive EntryKind where
  | file
  | directory
  | other
deriving DecidableEq, Repr

/-- An entry of a directory; its path starts at the repository's root. -/
structure Entry where
  name : String
  path : String
  kind : EntryKind
deriving DecidableEq, Repr

/-- Access to a repository's directories. -/
structure Tree (m : Type → Type) where
  /-- The text of the file at a path below a directory. -/
  fileAt (directory path : String) : m (Option String)
  entries (directory : String) : m (List Entry)

/-- Where a search stands. -/
structure Walk where
  queue : List String
  /-- Where the search goes on once the queue has run out. -/
  starts : List String
  visited : List String := []
  /-- The first file seen under the name searched for. -/
  candidate : Option String := none
deriving DecidableEq, Repr

namespace Walk

def isNew (w : Walk) (directory : String) : Bool := !w.visited.contains directory

/-- The next directory to visit and the walk after leaving the queue for it. -/
def next? (w : Walk) : Option (String × Walk) :=
  match w.queue.filter w.isNew with
  | directory :: queue => some (directory, { w with queue, visited := w.visited ++ [directory] })
  | [] =>
    match w.starts.filter w.isNew with
    | directory :: starts =>
      some (directory, { w with queue := [], starts, visited := w.visited ++ [directory] })
    | [] => none

/-- The first file of a listing with the given name. -/
def named (name : String) (entries : List Entry) : Option String :=
  (entries.find? fun e => e.kind == .file && e.name == name).map Entry.path

/-- The walk after a directory's listing. -/
def note (w : Walk) (name : String) (entries : List Entry) : Walk :=
  { w with
    queue := w.queue ++ (entries.filter fun e => e.kind == .directory).map Entry.path
    candidate := w.candidate.or (named name entries) }

/-- A search that starts below `root` and goes on from the repository's root. -/
def start (root : String) : Walk := ⟨[], [root, ""], [], none⟩

end Walk

/-- How a search ends. -/
inductive Found where
  | text (content : String)
  | absent
  /-- More directories are listed than the search may visit. -/
  | unfinished
deriving DecidableEq, Repr

/-- Visits directories until one holds `path`, and `limit` more after the first at most. Failing
that, the first file of the right name is taken. -/
def walk {m : Type → Type} [Monad m] (tree : Tree m) (path : String) (limit : Nat) (w : Walk) :
    m Found := do
  match w.next? with
  | none =>
    match w.candidate with
    | none => return .absent
    | some file => return ((← tree.fileAt "" file).map Found.text).getD .absent
  | some (directory, w) =>
    match ← tree.fileAt directory path with
    | some content => return .text content
    | none =>
      let w := w.note (Text.afterLast '/' path) (← tree.entries directory)
      match limit with
      | 0 => return .unfinished
      | limit + 1 => walk tree path limit w

/-- Searches for `path` from the directory `root` and then from the repository's root. -/
def search {m : Type → Type} [Monad m] (tree : Tree m) (limit : Nat) (root path : String) :
    m Found :=
  walk tree (Text.dropAround '/' path) limit (.start (Text.dropAround '/' root))

end DeployCheck.Repository
