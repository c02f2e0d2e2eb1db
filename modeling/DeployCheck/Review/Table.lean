import DeployCheck.Text.Blank
import DeployCheck.Text.Digits
import DeployCheck.Text.Styled

/-!
The table of a source review: a row for every file, columns as wide as their longest text. Colour
tells missing, differing and identical files apart.
-/
namespace DeployCheck.Review

/-- What a review found out about a file. -/
structure FileReport where
  /-- The file's position in the explorer's list, counted from one. -/
  index : Nat
  filename : String
  /-- The path that the explorer gives. -/
  path : String
  /-- Whether the repository holds the file. -/
  found : Bool
  /-- How many lines differ on either side. -/
  changed : Nat
  /-- The first segment of the path. -/
  origin : String
  reportPath : String
deriving DecidableEq, Repr

namespace FileReport

/-- Whether the repository holds the same text. -/
def isIdentical (f : FileReport) : Bool := f.found && f.changed == 0

def cells (f : FileReport) : List String :=
  [toString f.index, f.filename, if f.found then "true" else "false", toString f.changed, f.origin,
    f.reportPath]

def style (f : FileReport) : Text.Style :=
  if !f.found then .red else if f.changed > 0 then .yellow else .green

end FileReport

def foundCount (files : List FileReport) : Nat := (files.filter FileReport.found).length

def identicalCount (files : List FileReport) : Nat :=
  (files.filter FileReport.isIdentical).length

/-- Whether every file is found and identical. -/
def isClean (files : List FileReport) : Bool := files.all FileReport.isIdentical

def header : List String := ["#", "Filename", "Found", "Diffs", "Origin", "Report"]

/-- Widths that a row fits in as well. -/
def widen (widths : List Nat) (cells : List String) : List Nat :=
  List.zipWith (fun w cell => max w cell.utf8ByteSize) widths cells

/-- The widths of the columns, counted in bytes. -/
def columnWidths (rows : List (List String)) : List Nat :=
  rows.foldl widen (header.map String.utf8ByteSize)

/-- A row of cells, each padded to its width, without blanks at the end. -/
def rowText (widths : List Nat) (cells : List String) : String :=
  Text.strippedEnd (String.intercalate " | " (List.zipWith Text.padRight widths cells))

def dashes (n : Nat) : String := String.ofList (List.replicate n '-')

/-- The rule below the header. -/
def ruleText (widths : List Nat) : String := String.intercalate "-+-" (widths.map dashes)

/-- The lines of the table as styled text. -/
def tableLines (files : List FileReport) : List Text.Span :=
  let widths := columnWidths (files.map FileReport.cells)
  { text := rowText widths header } :: { text := ruleText widths } ::
    files.map fun f => ⟨rowText widths f.cells, some f.style⟩

def table (color : Bool) (files : List FileReport) : String :=
  String.join ((tableLines files).map fun line => line.render color ++ "\n")

end DeployCheck.Review
