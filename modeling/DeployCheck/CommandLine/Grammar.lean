import DeployCheck.Json.Basic

/-!
Arguments of a command: switches, settings with a value, and arguments given by position. After two
dashes everything counts by position. Nothing may be given twice.
-/
namespace DeployCheck.CommandLine

/-- An option without a value. -/
structure Switch where
  name : String
  letter : Option Char := none

/-- An option with a value. -/
structure Setting where
  name : String
  accepts : String → Bool := fun _ => true

/-- An argument given by its position. -/
structure Place where
  name : String
  isRequired : Bool := true
  accepts : String → Bool := fun _ => true

/-- The name of a command and the arguments that it takes. -/
structure Grammar where
  name : String
  switches : List Switch := []
  settings : List Setting := []
  places : List Place := []

/-- What help is asked for on. -/
inductive Topic where
  /-- The program, in few words. -/
  | brief
  /-- The program, at length. -/
  | program
  | command (name : String)
deriving DecidableEq, Repr

/-- Why arguments are no command. -/
inductive Stop where
  | usage
  | help (topic : Topic)
  | version
deriving DecidableEq, Repr

/-- What is given, by name. -/
abbrev Values := List (String × String)

namespace Values

def value? (vs : Values) (name : String) : Option String := Json.lookup name vs

def has (vs : Values) (name : String) : Bool := (vs.value? name).isSome

end Values

/-- How far arguments are read. -/
structure Reading where
  values : Values := []
  /-- How many arguments were given by position. -/
  placed : Nat := 0
  /-- A setting whose value is due. -/
  pending : Option Setting := none
  /-- Whether all that follows counts by position. -/
  literal : Bool := false

namespace Reading

def give (r : Reading) (name value : String) (accepted : Bool) : Except Stop Reading :=
  if accepted && !r.values.has name then
    .ok { r with values := r.values ++ [(name, value)], pending := none }
  else .error .usage

/-- Takes an argument by its position. -/
def place (g : Grammar) (r : Reading) (arg : String) : Except Stop Reading := do
  match g.places[r.placed]? with
  | none => throw .usage
  | some p => return { ← r.give p.name arg (p.accepts arg) with placed := r.placed + 1 }

/-- Takes an option by its name, with the value that is attached to it. -/
def long (g : Grammar) (r : Reading) (name : String) (value : Option String) :
    Except Stop Reading :=
  if name = "help" then .error (if value.isNone then .help (.command g.name) else .usage)
  else if g.switches.any fun s => s.name == name then r.give name "" value.isNone
  else match g.settings.find? fun s => s.name == name, value with
    | some s, some v => r.give name v (s.accepts v)
    | some s, none => .ok { r with pending := some s }
    | none, _ => .error .usage

/-- Takes switches by their letters. -/
def letters (g : Grammar) : Reading → List Char → Except Stop Reading
  | r, [] => .ok r
  | r, c :: cs =>
    if c = 'h' then .error (.help (.command g.name))
    else match g.switches.find? fun s => s.letter == some c with
      | some s => do letters g (← r.give s.name "" true) cs
      | none => .error .usage

/-- A name and the value behind an equals sign. -/
def splitValue (cs : List Char) : String × Option String :=
  let name := cs.takeWhile (· != '=')
  let value := match cs.drop name.length with
    | _ :: value => some (String.ofList value)
    | [] => none
  (String.ofList name, value)

/-- Takes the next argument. A setting that waits for its value takes no option for it. -/
def step (g : Grammar) (r : Reading) (arg : String) : Except Stop Reading :=
  if r.literal then r.place g arg
  else match arg.toList, r.pending with
    | '-' :: _ :: _, some _ => .error .usage
    | ['-', '-'], none => .ok { r with literal := true }
    | '-' :: '-' :: cs, none =>
      let (name, value) := splitValue cs
      r.long g name value
    | '-' :: c :: cs, none => r.letters g (c :: cs)
    | _, some s => r.give s.name arg (s.accepts arg)
    | _, none => r.place g arg

/-- What is given in the end. No value may be due and no required argument missing. -/
def finish (g : Grammar) (r : Reading) : Except Stop Values :=
  if r.pending.isSome || (g.places.drop r.placed).any Place.isRequired then .error .usage
  else .ok r.values

end Reading

/-- Reads the arguments of a command. -/
def Grammar.parse (g : Grammar) (args : List String) : Except Stop Values := do
  Reading.finish g (← args.foldlM (Reading.step g) {})

end DeployCheck.CommandLine
