import DeployCheck.LineDiff.Hunk
import DeployCheck.Text.Lines
import DeployCheck.Text.Split

/-!
Unified diffs: the changes between two texts in hunks, printed with the lines around them. Hunks
whose surroundings meet are printed as one block.
-/
namespace DeployCheck.LineDiff

/-- A line of a unified diff. -/
inductive Line where
  /-- Starts and lengths of a block in both texts; starts count from one. -/
  | header (beforeStart beforeLength afterStart afterLength : Nat)
  | context (line : String)
  | removed (line : String)
  | added (line : String)
deriving DecidableEq, Repr

/-- A line that ends in a newline, which is added if it is missing. -/
def ended (line : String) : String := if Text.endsWith "\n" line then line else line ++ "\n"

def Line.text : Line → String
  | .header b m a n => s!"@@ -{b},{m} +{a},{n} @@\n"
  | .context line => " " ++ ended line
  | .removed line => "-" ++ ended line
  | .added line => "+" ++ ended line

/-- The text of a diff's lines. -/
def printed (ls : List Line) : String := String.join (ls.map Line.text)

/-- A block that is not complete yet: the lines of the old text up to `position` are done. -/
structure Block where
  position : Nat
  beforeStart : Nat
  afterStart : Nat
  beforeLength : Nat := 0
  afterLength : Nat := 0
  lines : List Line := []
deriving DecidableEq, Repr

def slice (old : List String) (start stop : Nat) : List Line :=
  ((old.take stop).drop start).map Line.context

namespace Block

/-- Starts a block in front of a hunk. -/
def start (context : Nat) (h : Hunk) : Block :=
  ⟨h.beforeStart - context, h.beforeStart - context, h.afterStart - context, 0, 0, []⟩

/-- Adds a hunk and the lines that lead to it. -/
def append (old : List String) (b : Block) (h : Hunk) : Block :=
  let gap := h.beforeStart - b.position
  { b with
    position := h.stop
    beforeLength := b.beforeLength + gap + h.removed.length
    afterLength := b.afterLength + gap + h.added.length
    lines := b.lines ++ slice old b.position h.beforeStart ++ h.removed.map .removed ++
      h.added.map .added }

/-- The lines of a block, its header first; a block without lines has none. -/
def finish (context : Nat) (old : List String) (b : Block) : List Line :=
  if b.lines.isEmpty then []
  else
    let stop := min (b.position + context) old.length
    let rest := stop - b.position
    .header (b.beforeStart + 1) (b.beforeLength + rest) (b.afterStart + 1) (b.afterLength + rest) ::
      b.lines ++ slice old b.position stop

/-- Prints hunks after a block. A hunk starts a new one if more lines lie between than both
surroundings hold. -/
def print (context : Nat) (old : List String) : Block → List Hunk → List Line
  | b, [] => b.finish context old
  | b, h :: hs =>
    if 2 * context < h.beforeStart - b.position then
      b.finish context old ++ print context old ((start context h).append old h) hs
    else print context old (b.append old h) hs

end Block

/-- The lines of the unified diff of a text. The first block prints all lines in front of its hunk
unless it is far away. -/
def unifiedLines (context : Nat) (old : List String) : List Hunk → List Line
  | [] => []
  | h :: hs => Block.print context old { Block.start context h with position := 0 } (h :: hs)

/-- How much a diff changes. -/
structure Stats where
  hunks : Nat
  added : Nat
  removed : Nat
deriving DecidableEq, Repr

/-- The lines that differ on either side. -/
def Stats.changed (s : Stats) : Nat := s.added + s.removed

def Stats.ofHunks (hs : List Hunk) : Stats :=
  ⟨hs.length, (hs.flatMap (·.added)).length, (hs.flatMap (·.removed)).length⟩

/-- The differences between two texts. -/
structure Diff where
  unified : String
  stats : Stats
deriving DecidableEq, Repr

/-- The diff that is printed for hunks. -/
def Diff.ofHunks (context : Nat) (old : String) (hs : List Hunk) : Diff :=
  ⟨printed (unifiedLines context (Text.linesOf old) hs), .ofHunks hs⟩

/-- The hunks that a differ finds between the lines of two texts. -/
def Differ.between (d : Differ) (old new : String) : List Hunk :=
  d.hunks (Text.linesOf old) (Text.linesOf new)

/-- Compares two texts line by line. -/
def compare (context : Nat) (old new : String) (differ : Differ := .shortest) : Diff :=
  .ofHunks context old (differ.between old new)

end DeployCheck.LineDiff
