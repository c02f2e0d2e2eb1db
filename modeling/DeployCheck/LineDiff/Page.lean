import DeployCheck.LineDiff.Unified

/-!
A page that shows a unified diff, one element a line. Text cannot leave its element: the characters
of markup are written as entities.
-/
namespace DeployCheck.LineDiff.Page

/-- Writes a character of markup as an entity. -/
def escapeChar : Char → List Char
  | '&' => "&amp;".toList
  | '<' => "&lt;".toList
  | '>' => "&gt;".toList
  | '"' => "&quot;".toList
  | c => [c]

def escape (cs : List Char) : List Char := cs.flatMap escapeChar

def escapeText (s : String) : String := String.ofList (escape s.toList)

/-- The class of a line by its first character. -/
def lineClass : List Char → String
  | '+' :: _ => "add"
  | '-' :: _ => "del"
  | '@' :: _ => "hunk"
  | _ => "ctx"

/-- The element of a line without its end. -/
def element (line : List Char) : String :=
  "<pre class=\"" ++ lineClass line ++ "\">" ++ String.ofList (escape line) ++ "</pre>\n"

/-- The page up to the diff itself. -/
def opening (title : String) (stats : Stats) : String :=
  let title := escapeText title
  "<!DOCTYPE html>\n<html>\n<head>\n<meta charset=\"utf-8\">\n<title>" ++ title ++ "</title>\n" ++
  "<style>\nbody \x7b font-family: monospace; \x7d\n" ++
  ".add \x7b background: #aaffaa; \x7d\n.del \x7b background: #ffaaaa; \x7d\n" ++
  ".hunk \x7b color: #0066aa; \x7d\npre \x7b margin: 0; \x7d\n</style>\n</head>\n<body>\n" ++
  "<h3>" ++ title ++ "</h3>\n<p>" ++ toString stats.added ++ " added, " ++
  toString stats.removed ++ " removed, " ++ toString stats.hunks ++
  " hunks (repository &rarr; explorer)</p>\n"

def closing : String := "</body>\n</html>\n"

def noDifferences : String := "<p>No differences.</p>\n"

/-- The diff, an element a line. -/
def body (unified : String) : String :=
  if unified = "" then noDifferences
  else String.join ((Text.lines unified.toList).map fun line => element (Text.lineContent line))

def render (title : String) (diff : Diff) : String :=
  opening title diff.stats ++ body diff.unified ++ closing

end DeployCheck.LineDiff.Page
