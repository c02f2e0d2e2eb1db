/-!
Lines of a text. A line keeps the newline that ends it; only the last one may lack it.
-/
namespace DeployCheck.Text

/-- Puts a character in front of the first line. -/
def consLine (c : Char) (lines : List (List Char)) : List (List Char) :=
  if c = '\n' then [c] :: lines
  else match lines with
    | [] => [[c]]
    | line :: rest => (c :: line) :: rest

/-- The lines of a text, ends included. -/
def lines (cs : List Char) : List (List Char) := cs.foldr consLine []

def linesOf (s : String) : List String := (lines s.toList).map String.ofList

/-- A line without the newline that ends it and the carriage return before that. -/
def lineContent (line : List Char) : List Char :=
  match line.reverse with
  | '\n' :: '\r' :: rest => rest.reverse
  | '\n' :: rest => rest.reverse
  | _ => line

@[simp] theorem lines_nil : lines [] = [] := rfl

theorem lines_cons (c : Char) (cs : List Char) : lines (c :: cs) = consLine c (lines cs) := rfl

theorem flatten_consLine (c : Char) (ls : List (List Char)) :
    (consLine c ls).flatten = c :: ls.flatten := by
  unfold consLine
  split
  · simp
  · cases ls <;> simp

/-- Nothing of a text is lost in its lines. -/
theorem flatten_lines (cs : List Char) : (lines cs).flatten = cs := by
  induction cs with
  | nil => rfl
  | cons c cs ih => rw [lines_cons, flatten_consLine, ih]

end DeployCheck.Text
