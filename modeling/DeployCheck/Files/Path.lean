import DeployCheck.Text.Split

/-!
Paths as text, and the locations that they lead to. A path is relative unless it starts with a
slash; repeated slashes and single dots do not count, and two dots lead to the parent.
-/
namespace DeployCheck

/-- Names on the way to a place. The way starts at the working directory, at the root if the first
name is empty, or above the working directory if the first names are two dots. -/
abbrev Location := List String

namespace Location

def root : Location := [""]

/-- The root, the working directory and the directories above it, which are always there. -/
def isBase (l : Location) : Bool := l == root || l.all (· == "..")

def parent (l : Location) : Location :=
  if l == root then l else if l.isBase then l ++ [".."] else l.dropLast

def text (l : Location) : String := String.intercalate "/" l

/-- What the texts of all places below a place begin with. -/
def lead (l : Location) : String := if l.isEmpty then "" else l.text ++ "/"

end Location

namespace Path

/-- Texts between slashes. -/
def parts (path : String) : List String := Text.fields '/' path

def isAbsolute (path : String) : Bool := Text.startsWith "/" path

/-- Where the way of a path starts. -/
def base (path : String) : Location := if isAbsolute path then .root else []

/-- The names of a path, two dots among them. -/
def names (path : String) : List String := (parts path).filter fun p => p != "" && p != "."

/-- Whether the last part that is not empty is a single dot. -/
def endsInDot (path : String) : Bool := ((parts path).filter (· != "")).getLast? == some "."

/-- `path` seen from the directory `dir`; an absolute path stands for itself. -/
def join (dir path : String) : String :=
  if isAbsolute path || dir.isEmpty then path
  else if Text.endsWith "/" dir then dir ++ path
  else dir ++ "/" ++ path

/-- What precedes the last slash. -/
def directory (path : String) : String :=
  String.ofList ((path.toList.reverse.dropWhile (· != '/')).drop 1).reverse

/-- Without slashes and single dots at the end, but for those that begin the path. -/
def trimmed (path : String) : String :=
  let rec drop : List Char → List Char
    | '/' :: c :: rest => drop (c :: rest)
    | '.' :: '/' :: c :: rest => drop (c :: rest)
    | cs => cs
  String.ofList (drop path.toList.reverse).reverse

/-- The last name of a path, unless it ends in two dots or has none. -/
def fileName? (path : String) : Option String := (names path).getLast?.filter (· != "..")

/-- What follows the last dot of the last name; a dot in front of it starts no extension. -/
def extension? (path : String) : Option String :=
  (fileName? path).bind fun name =>
    let cs := name.toList
    let tail := (cs.reverse.takeWhile (· != '.')).reverse
    if tail.length + 1 < cs.length then some (String.ofList tail) else none

/-- Why a path leads nowhere. -/
inductive Error where
  | missing
  /-- The way goes on behind a file. -/
  | notDirectory
  | tooLong
  | nullCharacter
deriving DecidableEq, Repr

def Error.message : Error → String
  | .missing => "No such file or directory (os error 2)"
  | .notDirectory => "Not a directory (os error 20)"
  | .tooLong => "File name too long (os error 36)"
  | .nullCharacter => "nul byte found in provided data"

/-- The most bytes of a name. -/
def nameLimit : Nat := 255

/-- The most bytes of a path. -/
def limit : Nat := 4095

/-- Fails for a text that is no path at all. -/
def check (path : String) : Except Error Unit :=
  if path.toList.contains '\x00' then .error .nullCharacter
  else if path = "" then .error .missing
  else if limit < path.utf8ByteSize then .error .tooLong
  else .ok ()

end Path

end DeployCheck
