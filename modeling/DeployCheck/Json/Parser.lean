import DeployCheck.Json.Shape
import DeployCheck.Json.Skip

/-!
Reading JSON text. Values may nest 127 deep. Of a value with a shape, members that nobody looks at
are passed over.
-/
namespace DeployCheck.Json

/-- Items up to the closing bracket, the first of which is already due and stands at place `i`;
`fuel` bounds their number. -/
def items (item : Nat → Reader Json) : Nat → Nat → Reader (List Json)
  | 0, _, _ => none
  | fuel + 1, i, cs => do
    let (j, rest) ← item i cs
    match skipSpace rest with
    | ',' :: rest =>
      let (tail, rest) ← items item fuel (i + 1) rest
      return (j :: tail, rest)
    | ']' :: rest => return ([j], rest)
    | _ => none

/-- A key and its colon. -/
def key (fuel : Nat) (cs : List Char) : Option (String × List Char) :=
  match skipSpace cs with
  | '"' :: rest => do
    let (name, rest) ← stringBody fuel rest
    return (name, ← Text.after? [':'] (skipSpace rest))
  | _ => none

/-- A member, unless it is passed over. -/
def member (fuel : Nat) (item? : String → Option (Reader Json)) :
    Reader (Option (String × Json)) := fun cs => do
  let (name, rest) ← key fuel cs
  match item? name with
  | some item =>
    let (j, rest) ← item rest
    return (some (name, j), rest)
  | none => return (none, ← skipValue fuel rest)

/-- Members up to the closing brace. -/
def members (entry : Reader (Option (String × Json))) : Nat → Reader (List (String × Json))
  | 0, _ => none
  | fuel + 1, cs => do
    let (m, rest) ← entry cs
    match skipSpace rest with
    | ',' :: rest =>
      let (tail, rest) ← members entry fuel rest
      return (m.toList ++ tail, rest)
    | '\x7d' :: rest => return (m.toList, rest)
    | _ => none

def arrayBody (fuel : Nat) (item : Nat → Reader Json) (cs : List Char) :
    Option (Json × List Char) :=
  match skipSpace cs with
  | ']' :: rest => some (.arr [], rest)
  | cs => (items item fuel 0 cs).map fun (js, rest) => (.arr js, rest)

def objectBody (fuel : Nat) (item? : String → Option (Reader Json)) (cs : List Char) :
    Option (Json × List Char) :=
  match skipSpace cs with
  | '\x7d' :: rest => some (.obj [], rest)
  | cs => (members (member fuel item?) fuel cs).map fun (ms, rest) => (.obj ms, rest)

/-- A value that nests at most `depth` containers; `fuel` bounds its characters. -/
def value (fuel : Nat) : Nat → Shape → Reader Json
  | depth, shape, cs =>
    match depth, skipSpace cs with
    | depth + 1, '[' :: rest => arrayBody fuel (fun i => value fuel depth (shape.item i)) rest
    | depth + 1, '\x7b' :: rest =>
      objectBody fuel (fun name => (shape.member? name).map (value fuel depth)) rest
    | _, cs => scalar fuel cs

/-- Reads a whole text, keeping repeated keys. -/
def parseAs? (shape : Shape) (s : String) : Option Json :=
  let cs := s.toList
  match value (cs.length + 1) 127 shape cs with
  | some (j, rest) => if (skipSpace rest).isEmpty then some j else none
  | none => none

/-- Reads a whole text into a value with unique keys. -/
def parse? (s : String) : Option Json := (parseAs? .whole s).map merged

end DeployCheck.Json
