import DeployCheck.Json.Scalar

/-!
Passing over a JSON value that nobody reads. Its text has to be well formed, but it may nest
without limit, its numbers may be of any size and its strings may hold halves of pairs.
-/
namespace DeployCheck.Json

/-- What follows a string, after its opening quote. -/
def skipString : List Char → Option (List Char)
  | [] => none
  | '"' :: rest => some rest
  | '\\' :: 'u' :: a :: b :: c :: d :: rest =>
    if ([a, b, c, d].mapM (Text.digitValue 16)).isSome then skipString rest else none
  | '\\' :: c :: rest => if (shortEscape c).isSome then skipString rest else none
  | c :: rest => if c = '\\' ∨ c.toNat < 32 then none else skipString rest

/-- What follows a value that opens no container. -/
def skipScalar : List Char → Option (List Char)
  | '"' :: rest => skipString rest
  | '-' :: rest => (numeral rest).map Prod.snd
  | 'n' :: rest => Text.after? "ull".toList rest
  | 't' :: rest => Text.after? "rue".toList rest
  | 'f' :: rest => Text.after? "alse".toList rest
  | cs => (numeral cs).map Prod.snd

/-- What follows a key and its colon. -/
def skipKey (cs : List Char) : Option (List Char) :=
  match skipSpace cs with
  | '"' :: rest => (skipString rest).bind fun rest => Text.after? [':'] (skipSpace rest)
  | _ => none

/-- Containers whose end is still to come. -/
inductive Bracket where
  | array
  | object
deriving DecidableEq, Repr

namespace Bracket

def closing : Bracket → Char
  | array => ']'
  | object => '\x7d'

/-- What follows the text in front of an item, which is a key in objects. -/
def skipLead : Bracket → List Char → Option (List Char)
  | array, cs => some cs
  | object, cs => skipKey cs

def ofOpening? (c : Char) : Option Bracket :=
  if c = '[' then some array else if c = '\x7b' then some object else none

end Bracket

/-- What follows the open containers, innermost first, where a value is due first or, with
`isDue` false, has just ended. `fuel` bounds the steps, each of which takes a character. -/
def skipOpen : Nat → Bool → List Bracket → List Char → Option (List Char)
  | 0, _, _, _ => none
  | _ + 1, false, [], cs => some cs
  | fuel + 1, false, b :: below, cs =>
    match skipSpace cs with
    | c :: rest =>
      if c = b.closing then skipOpen fuel false below rest
      else if c = ',' then (b.skipLead rest).bind (skipOpen fuel true (b :: below))
      else none
    | [] => none
  | fuel + 1, true, above, cs =>
    match skipSpace cs with
    | [] => none
    | c :: rest =>
      match Bracket.ofOpening? c with
      | none => (skipScalar (c :: rest)).bind (skipOpen fuel false above)
      | some b =>
        match Text.after? [b.closing] (skipSpace rest) with
        | some rest => skipOpen fuel false above rest
        | none => (b.skipLead rest).bind (skipOpen fuel true (b :: above))

/-- What follows a value; `fuel` bounds its characters. -/
def skipValue (fuel : Nat) (cs : List Char) : Option (List Char) := skipOpen fuel true [] cs

end DeployCheck.Json
