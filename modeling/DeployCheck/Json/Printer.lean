import DeployCheck.Decimal.Shortest
import DeployCheck.Json.Basic
import DeployCheck.Text.Digits

/-!
JSON as text: `compact` without any space, and `pretty` with two spaces of indentation per level.
Only quotes, backslashes and control characters are escaped.
-/
namespace DeployCheck.Json

/-- One character inside a JSON string. -/
def escape (c : Char) : List Char :=
  if c = '"' then ['\\', '"']
  else if c = '\\' then ['\\', '\\']
  else if c.toNat = 8 then ['\\', 'b']
  else if c.toNat = 12 then ['\\', 'f']
  else if c = '\n' then ['\\', 'n']
  else if c = '\r' then ['\\', 'r']
  else if c = '\t' then ['\\', 't']
  else if c.toNat < 32 then '\\' :: 'u' :: (Text.hexDigits 4 c.toNat).toList
  else [c]

def quoted (s : String) : List Char := '"' :: s.toList.flatMap escape ++ ['"']

mutual

def write : Json → List Char
  | .null => "null".toList
  | .bool true => "true".toList
  | .bool false => "false".toList
  | .int n => (toString n).toList
  | .float x => x.text.toList
  | .str s => quoted s
  | .arr items => '[' :: writeItems items ++ [']']
  | .obj members => '\x7b' :: writeMembers members ++ ['\x7d']

def writeItems : List Json → List Char
  | [] => []
  | [j] => j.write
  | j :: rest => j.write ++ ',' :: writeItems rest

def writeMembers : List (String × Json) → List Char
  | [] => []
  | [(k, j)] => quoted k ++ ':' :: j.write
  | (k, j) :: rest => quoted k ++ ':' :: j.write ++ ',' :: writeMembers rest

end

/-- The text without spaces. -/
def compact (j : Json) : String := String.ofList j.write

/-- A line break and the indentation of a level. -/
def newline (level : Nat) : List Char := '\n' :: List.replicate (2 * level) ' '

mutual

def writePretty (level : Nat) : Json → List Char
  | .arr [] => ['[', ']']
  | .obj [] => ['\x7b', '\x7d']
  | .arr items => '[' :: writePrettyItems (level + 1) items ++ newline level ++ [']']
  | .obj members => '\x7b' :: writePrettyMembers (level + 1) members ++ newline level ++ ['\x7d']
  | j => j.write

def writePrettyItems (level : Nat) : List Json → List Char
  | [] => []
  | [j] => newline level ++ writePretty level j
  | j :: rest => newline level ++ writePretty level j ++ ',' :: writePrettyItems level rest

def writePrettyMembers (level : Nat) : List (String × Json) → List Char
  | [] => []
  | [(k, j)] => newline level ++ quoted k ++ ": ".toList ++ writePretty level j
  | (k, j) :: rest =>
    newline level ++ quoted k ++ ": ".toList ++ writePretty level j ++
      ',' :: writePrettyMembers level rest

end

/-- The text with one member or item a line. -/
def pretty (j : Json) : String := String.ofList (writePretty 0 j)

end DeployCheck.Json
