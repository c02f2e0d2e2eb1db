import DeployCheck.Json.Basic

/-!
Immutable slots: regions of the expected code whose bytes are filled in at deployment. A set of
them holds one length per start, in ascending order of starts.
-/
namespace DeployCheck.Bytecode

/-- Pairs of a start and a length. -/
abbrev Immutables := List (Nat × Nat)

namespace Immutables

/-- Adds a region; a region with the same start is replaced. -/
def insert (start length : Nat) : Immutables → Immutables
  | [] => [(start, length)]
  | (s, l) :: rest =>
    if start < s then (start, length) :: (s, l) :: rest
    else if start = s then (start, length) :: rest
    else (s, l) :: insert start length rest

def ofList (regions : List (Nat × Nat)) : Immutables :=
  regions.foldl (fun refs r => insert r.1 r.2 refs) []

/-- The position behind `length` bytes from `start`. Positions are words, so a region that reaches
over the last one stops near zero. -/
def stop (start length : Nat) : Nat := (start + length) % Text.wordBound

/-- Whether a region meets the span of `length` bytes from `start`. -/
def overlaps (refs : Immutables) (start length : Nat) : Bool :=
  refs.any fun (s, l) => s < stop start length && start < stop s l

/-- A region of a compiler's report, if both of its numbers are there. -/
def region? (slot : Json) : Option (Nat × Nat) := do
  let start ← (slot.get? "start").bind Json.asWord?
  let length ← (slot.get? "length").bind Json.asWord?
  return (start, length)

/-- The regions of a compiler's report, which groups them by syntax node. Groups that are no
arrays and slots without both numbers are skipped. -/
def ofReport (report : Json) : Immutables :=
  let groups := (report.asObject?.getD []).filterMap fun m => m.2.asArray?
  ofList (groups.flatten.filterMap region?)

end Immutables

end DeployCheck.Bytecode
