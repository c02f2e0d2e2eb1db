import DeployCheck.Json.Basic

/-!
Records in JSON. A record is an object of its fields, where fields it does not know are ignored and
none may come twice, or an array of its fields in order, which may end early where only fields with
a default are left.
-/
namespace DeployCheck.Json

/-- A record's fields by name. -/
abbrev Fields := List (String × Json)

def noRepeats (names : List String) (members : List (String × Json)) : Bool :=
  names.all fun name => (members.filter fun m => m.1 == name).length ≤ 1

/-- The fields of a record with the given names in order, of which the first `required` have to be
present in the array form. -/
def fields? (names : List String) (required : Nat) : Json → Option Fields
  | .obj members =>
    let known := members.filter fun m => names.contains m.1
    if noRepeats names known then some known else none
  | .arr items =>
    if required ≤ items.length ∧ items.length ≤ names.length then some (names.zip items) else none
  | _ => none

namespace Fields

/-- A field that has to be there. -/
def required {α : Type} (read : Json → Option α) (fields : Fields) (name : String) : Option α :=
  (lookup name fields).bind read

/-- A field with a default. -/
def withDefault {α : Type} (default : α) (read : Json → Option α) (fields : Fields)
    (name : String) : Option α :=
  match lookup name fields with
  | none => some default
  | some j => read j

/-- A field that may be absent or `null`. -/
def optional {α : Type} (read : Json → Option α) (fields : Fields) (name : String) :
    Option (Option α) :=
  match lookup name fields with
  | none => some none
  | some .null => some none
  | some j => (read j).map some

end Fields

/-- Every item read by `read`. -/
def listOf {α : Type} (read : Json → Option α) (j : Json) : Option (List α) :=
  j.asArray?.bind fun items => items.mapM read

/-- The ordered map of an object; of a repeated key the last value stands. -/
def mapOf {α : Type} (read : Json → Option α) (j : Json) : Option (List (String × α)) :=
  j.asObject?.bind fun members =>
    (members.mapM fun m => (read m.2).map fun v => (m.1, v)).map insertAll

end DeployCheck.Json
