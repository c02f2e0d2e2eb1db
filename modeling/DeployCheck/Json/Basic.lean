import DeployCheck.Decimal.Double
import DeployCheck.Text.Digits

/-!
JSON values whose objects keep the order of their members. A number is an integer or a double; a
freshly read object may hold a key twice, and `merged` settles that.
-/
namespace DeployCheck

inductive Json where
  | null
  | bool (value : Bool)
  | int (value : Int)
  | float (value : Decimal.Double)
  | str (value : String)
  | arr (items : List Json)
  | obj (members : List (String × Json))
deriving Inhabited, Repr

namespace Json

/-- The first entry under a key of an ordered map. -/
def lookup {α : Type} (key : String) : List (String × α) → Option α
  | [] => none
  | (k, v) :: rest => if k = key then some v else lookup key rest

/-- Writes an entry of an ordered map: a key that is there keeps its position, a new one goes to
the end. -/
def insert {α : Type} (key : String) (value : α) : List (String × α) → List (String × α)
  | [] => [(key, value)]
  | (k, v) :: rest => if k = key then (k, value) :: rest else (k, v) :: insert key value rest

/-- The ordered map of a list of entries, written from left to right. -/
def insertAll {α : Type} (entries : List (String × α)) : List (String × α) :=
  entries.foldl (fun m e => insert e.1 e.2 m) []

mutual

/-- Objects as ordered maps at every depth: a repeated key keeps its first position and takes its
last value. -/
def merged : Json → Json
  | .arr items => .arr (mergedItems items)
  | .obj members => .obj (insertAll (mergedMembers members))
  | j => j

def mergedItems : List Json → List Json
  | [] => []
  | j :: rest => j.merged :: mergedItems rest

def mergedMembers : List (String × Json) → List (String × Json)
  | [] => []
  | (k, j) :: rest => (k, j.merged) :: mergedMembers rest

end

mutual

/-- How many containers nest at most. -/
def depth : Json → Nat
  | .arr items => depthItems items + 1
  | .obj members => depthMembers members + 1
  | _ => 0

def depthItems : List Json → Nat
  | [] => 0
  | j :: rest => max j.depth (depthItems rest)

def depthMembers : List (String × Json) → Nat
  | [] => 0
  | (_, j) :: rest => max j.depth (depthMembers rest)

end

/-- The member of an object under a key. -/
def get? (j : Json) (key : String) : Option Json :=
  match j with
  | .obj members => lookup key members
  | _ => none

def asString? : Json → Option String
  | .str s => some s
  | _ => none

def asBool? : Json → Option Bool
  | .bool b => some b
  | _ => none

/-- An unsigned 64-bit number. -/
def asWord? : Json → Option Nat
  | .int n => if 0 ≤ n ∧ n < Text.wordBound then some n.toNat else none
  | _ => none

def asArray? : Json → Option (List Json)
  | .arr items => some items
  | _ => none

def asObject? : Json → Option (List (String × Json))
  | .obj members => some members
  | _ => none

def isNull : Json → Bool
  | .null => true
  | _ => false

/-- The text under a key. -/
def string? (j : Json) (key : String) : Option String := (j.get? key).bind asString?

/-- The value at the end of a path of keys. -/
def at? (j : Json) : List String → Option Json
  | [] => some j
  | key :: path => (j.get? key).bind fun inner => inner.at? path

/-- An object with one member written; any other value becomes that object. -/
def set (j : Json) (key : String) (value : Json) : Json :=
  match j with
  | .obj members => .obj (insert key value members)
  | _ => .obj [(key, value)]

def ofStrings (items : List String) : Json := .arr (items.map .str)

theorem lookup_insert {α : Type} (key : String) (value : α) (m : List (String × α)) :
    lookup key (insert key value m) = some value := by
  induction m with
  | nil => simp [insert, lookup]
  | cons e rest ih => by_cases h : e.1 = key <;> simp [insert, lookup, h, ih]

theorem lookup_insert_of_ne {α : Type} {key other : String} (h : other ≠ key) (value : α)
    (m : List (String × α)) : lookup other (insert key value m) = lookup other m := by
  induction m with
  | nil => simp [insert, lookup, Ne.symm h]
  | cons e rest ih =>
    by_cases hk : e.1 = key
    · simp [insert, lookup, hk, Ne.symm h]
    · simp [insert, lookup, hk, ih]

end Json

end DeployCheck
