import DeployCheck.Files.Path
import DeployCheck.Text.Blob

/-!
A tree of files in memory. A path leads through directories that are there, and a file can be
written only where its directory is.
-/
namespace DeployCheck

/-- What stands at a location. -/
inductive Entry where
  | directory
  | file (contents : Blob) (executable : Bool)
deriving DecidableEq, Repr

/-- The entries by the texts of their locations. -/
structure Files where
  entries : List (String × Entry) := []
deriving DecidableEq, Repr

namespace Files

def entryAt? (fs : Files) (l : Location) : Option Entry :=
  let text := l.text
  (fs.entries.find? fun e => e.1 == text).map Prod.snd

/-- Replaces what stands at a location. -/
def put (fs : Files) (l : Location) (entry : Entry) : Files :=
  let text := l.text
  ⟨fs.entries.filter (fun e => e.1 != text) ++ [(text, entry)]⟩

def isDirectoryAt (fs : Files) (l : Location) : Bool :=
  l.isBase || fs.entryAt? l == some .directory

def isFileAt (fs : Files) (l : Location) : Bool :=
  match fs.entryAt? l with
  | some (.file ..) => true
  | _ => false

/-! ## Ways -/

/-- The place that a part of a path leads to from a directory. -/
def step (fs : Files) (l : Location) (part : String) : Except Path.Error Location :=
  if !fs.isDirectoryAt l then .error (if fs.isFileAt l then .notDirectory else .missing)
  else if part = "" ∨ part = "." then .ok l
  else if part = ".." then .ok l.parent
  else if Path.nameLimit < part.utf8ByteSize then .error .tooLong
  else .ok (l ++ [part])

/-- The place that a path leads to. Something need not be there, but all on the way to it are
directories; a slash at the end makes the last name one on the way. -/
def locate (fs : Files) (path : String) : Except Path.Error Location := do
  Path.check path
  (Path.parts path).foldlM fs.step (Path.base path)

/-- What a test says of the place of a path, if the path leads to one. -/
def meets (fs : Files) (test : Location → Bool) (path : String) : Bool :=
  match fs.locate path with
  | .ok l => test l
  | .error _ => false

def isDirectory (fs : Files) (path : String) : Bool := fs.meets fs.isDirectoryAt path

def isFile (fs : Files) (path : String) : Bool := fs.meets fs.isFileAt path

def exists? (fs : Files) (path : String) : Bool := fs.isFile path || fs.isDirectory path

/-- Fails unless a path leads to a directory. -/
def checkDirectory (fs : Files) (path : String) : Except Path.Error Unit := do
  let l ← fs.locate path
  if fs.isDirectoryAt l then .ok ()
  else .error (if fs.isFileAt l then .notDirectory else .missing)

def fileAt? (fs : Files) (path : String) : Option (Blob × Bool) :=
  match fs.locate path with
  | .ok l =>
    match fs.entryAt? l with
    | some (.file contents executable) => some (contents, executable)
    | _ => none
  | .error _ => none

def contents? (fs : Files) (path : String) : Option Blob := (fs.fileAt? path).map Prod.fst

/-- The text of a file. -/
def read? (fs : Files) (path : String) : Option String := (fs.contents? path).bind Blob.text?

def isExecutable (fs : Files) (path : String) : Bool := (fs.fileAt? path).any Prod.snd

/-! ## Changes -/

/-- Makes the directories on a way from `l`. -/
def makeAlong (fs : Files) (l : Location) : List String → Option Files
  | [] => some fs
  | name :: rest =>
    if name = ".." then fs.makeAlong l.parent rest
    else
      let next := l ++ [name]
      if fs.isDirectoryAt next then fs.makeAlong next rest
      else if fs.isFileAt next || Path.nameLimit < name.utf8ByteSize then none
      else (fs.put next .directory).makeAlong next rest

/-- Makes a directory and all that lead to it. A path that ends in a single dot makes only those
that lead to its last name. -/
def makeDirectories? (fs : Files) (path : String) : Option Files :=
  if path = "" then some fs
  else match Path.check path with
    | .error _ => none
    | .ok () =>
      let names := Path.names path
      if Path.endsInDot path then
        (fs.makeAlong (Path.base path) names.dropLast).filter fun made => made.isDirectory path
      else fs.makeAlong (Path.base path) names

/-- Writes a file where its directory exists. -/
def write? (fs : Files) (path : String) (contents : Blob) (executable : Bool) : Option Files :=
  match fs.locate path with
  | .error _ => none
  | .ok l => if fs.isDirectoryAt l then none else some (fs.put l (.file contents executable))

/-- Adds a file or, for a path that ends in a slash, a directory, with all directories on the
way. -/
def seed (fs : Files) (path : String) (contents : Blob) : Files :=
  if Text.endsWith "/" path then (fs.makeDirectories? path).getD fs
  else
    ((fs.makeDirectories? (Path.directory path)).bind fun fs => fs.write? path contents false).getD fs

/-! ## Listings -/

/-- What stands below a directory, by the rest of the way to it. -/
def inside (fs : Files) (path : String) : List (String × Entry) :=
  match fs.locate path with
  | .error _ => []
  | .ok l => fs.entries.filterMap fun e => (Text.textAfter? l.lead e.1).map fun rest => (rest, e.2)

/-- The names in a directory, ascending. -/
def namesIn (fs : Files) (path : String) : List String :=
  ((fs.inside path).filterMap fun e => if e.1.toList.contains '/' then none else some e.1).mergeSort
    fun a b => decide (a ≤ b)

/-- Every file below a directory with its path, ascending by path. -/
def below (fs : Files) (path : String) : List (String × String) :=
  let found := (fs.inside path).filterMap fun
    | (rest, .file contents _) => some (Path.join path rest, contents.text)
    | _ => none
  found.mergeSort fun a b => decide (a.1 ≤ b.1)

end Files

end DeployCheck
