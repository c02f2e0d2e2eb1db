import DeployCheck.Text.Split
import DeployCheck.Url.Host

/-!
Paths of URLs as segments between slashes. Segments of one dot stay away, a segment of two dots
takes the one before it away, and the drive of a file, a letter before a colon or a bar, is not
taken away.
-/
namespace DeployCheck.Url.Path

/-- Characters written as percent-coded bytes in a path. -/
def isCoded (c : Char) : Bool :=
  c.toNat ≤ 0x20 || 126 < c.toNat || "\"#<>?\x60\x7b\x7d".toList.contains c

def coded (cs : List Char) : List Char :=
  cs.flatMap fun c => if isCoded c then Host.percentEncode c else [c]

/-- A slash; a special scheme takes a backslash for one. -/
def isSlash (special : Bool) (c : Char) : Bool := c == '/' || (special && c == '\\')

/-- The text before the query and the fragment. -/
def before (cs : List Char) : List Char := cs.takeWhile fun c => c != '?' && c != '#'

/-- Segments between slashes; there is always one. -/
def segments (special : Bool) : List Char → List (List Char)
  | [] => [[]]
  | c :: rest =>
    if isSlash special c then [] :: segments special rest
    else match segments special rest with
      | [] => [[c]]
      | s :: ss => (c :: s) :: ss

/-- A segment of one dot, which may be percent-coded. -/
def isDot (s : List Char) : Bool := s == ['.'] || s.map Char.toLower == "%2e".toList

/-- A segment of two dots. -/
def isDoubleDot (s : List Char) : Bool :=
  let t := s.map Char.toLower
  t == "..".toList || t == ".%2e".toList || t == "%2e.".toList || t == "%2e%2e".toList

def isDrive (s : List Char) : Bool :=
  match s with
  | [c, m] => c.isAlpha && (m == ':' || m == '|')
  | _ => false

/-- The segments passed so far, and whether the first one came as the drive of a file. -/
structure Trail where
  passed : List (List Char)
  fromDrive : Bool
deriving DecidableEq, Repr

namespace Trail

def start : Trail := ⟨[], false⟩

/-- One segment back, but not beyond a drive. -/
def back (t : Trail) : Trail :=
  if t.passed.getLast?.any isDrive then t else { t with passed := t.passed.dropLast }

def push (t : Trail) (s : List Char) : Trail := { t with passed := t.passed ++ [s] }

/-- The first segment of a file's path. A drive is written with a colon, and what follows the
colon of a drive is a segment of its own. -/
def pushFirst (s : List Char) : Trail :=
  match s with
  | c :: m :: rest =>
    if isDrive [c, m] && rest.isEmpty then ⟨[[c, ':']], true⟩
    else if c.isAlpha && m == ':' then ⟨[[c, ':'], coded rest], false⟩
    else start.push (coded s)
  | _ => start.push (coded s)

/-- The trail with all segments passed; one that ends in dots ends in an empty segment. -/
def pass (file : Bool) (t : Trail) : List (List Char) → Trail
  | [] => t
  | s :: rest =>
    let ending (t : Trail) : Trail := if rest.isEmpty then t.push [] else t
    if isDoubleDot s then pass file (ending t.back) rest
    else if isDot s then pass file (ending t) rest
    else if file && t.passed.isEmpty then pass file { pushFirst s with fromDrive :=
      t.fromDrive || (pushFirst s).fromDrive } rest
    else pass file (t.push (coded s)) rest

def text (t : Trail) : List Char := t.passed.flatMap fun s => '/' :: s

end Trail

/-- The trail of a text in front of which a slash stands or is understood. -/
def trail (special file : Bool) (cs : List Char) : Trail :=
  Trail.start.pass file (segments special (before cs))

/-- Without one slash at the beginning. -/
def afterSlash (special : Bool) (cs : List Char) : List Char :=
  match cs with
  | c :: rest => if isSlash special c then rest else c :: rest
  | [] => []

/-- The path behind an authority. Only a special scheme gives an empty one a slash. -/
def afterAuthority (special : Bool) (cs : List Char) : List Char :=
  if !special && (before cs).isEmpty then []
  else (trail special false (afterSlash special cs)).text

/-- The path of a file, which begins with a single slash. -/
def ofFile (t : Trail) : List Char := '/' :: t.text.dropWhile (· == '/')

/-- A path that is no list of segments. -/
def asOpaque (cs : List Char) : List Char :=
  (before cs).flatMap fun c =>
    if c.toNat < 32 || 126 < c.toNat then Host.percentEncode c else [c]

end DeployCheck.Url.Path
