import DeployCheck.Json.Basic

/-!
Shapes: which parts of a JSON value a reader looks at. A record looks at its own fields and passes
over all others; everything else is looked at as a whole.
-/
namespace DeployCheck.Json

inductive Shape where
  /-- All of a value. -/
  | whole
  /-- An array of items. -/
  | list (item : Shape)
  /-- An object with keys of any name. -/
  | map (entry : Shape)
  /-- An object of the fields, or an array of them in order. -/
  | record (fields : List (String × Shape))

namespace Shape

/-- The shape of the item at a place of an array. -/
def item : Shape → Nat → Shape
  | list shape, _ => shape
  | record fields, i => (fields[i]?.map Prod.snd).getD whole
  | _, _ => whole

/-- The shape of the member under a key; `none` for a member that is passed over. -/
def member? : Shape → String → Option Shape
  | map shape, _ => some shape
  | record fields, key => lookup key fields
  | _, _ => some whole

/-- A record whose fields are looked at as wholes. -/
def plain (names : List String) : Shape := record (names.map fun name => (name, whole))

end Shape

end DeployCheck.Json
