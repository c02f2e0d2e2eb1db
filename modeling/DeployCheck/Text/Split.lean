/-!
Cutting texts: at every occurrence of a character, after a given beginning, before a given end.
-/
namespace DeployCheck.Text

/-- The parts between occurrences of `sep`; there is always one. -/
def split (sep : Char) : List Char → List (List Char)
  | [] => [[]]
  | c :: rest =>
    if c = sep then [] :: split sep rest
    else match split sep rest with
      | [] => [[c]]
      | part :: parts => (c :: part) :: parts

def fields (sep : Char) (s : String) : List String := (split sep s.toList).map String.ofList

/-- What follows `lead` at the beginning. -/
def after? : List Char → List Char → Option (List Char)
  | [], cs => some cs
  | w :: ws, c :: cs => if w = c then after? ws cs else none
  | _ :: _, [] => none

/-- What precedes `tail` at the end. -/
def before? (tail cs : List Char) : Option (List Char) :=
  (after? tail.reverse cs.reverse).map List.reverse

def startsWith (lead s : String) : Bool := (after? lead.toList s.toList).isSome

def endsWith (tail s : String) : Bool := (before? tail.toList s.toList).isSome

def textAfter? (lead s : String) : Option String := (after? lead.toList s.toList).map String.ofList

/-- Without every occurrence of `c` at the beginning. -/
def dropLeading (c : Char) (s : String) : String := String.ofList (s.toList.dropWhile (· == c))

/-- Without every occurrence of `c` at both ends. -/
def dropAround (c : Char) (s : String) : String :=
  String.ofList (((s.toList.dropWhile (· == c)).reverse.dropWhile (· == c)).reverse)

/-- What precedes the first occurrence of `mark`; everything, if there is none. -/
def upTo (mark : List Char) : List Char → List Char
  | [] => []
  | c :: rest => if (after? mark (c :: rest)).isSome then [] else c :: upTo mark rest

/-- What follows the last occurrence of `c`; everything, if there is none. -/
def afterLast (c : Char) (s : String) : String :=
  String.ofList (s.toList.reverse.takeWhile (· != c)).reverse

/-- What precedes the first occurrence of `c`; everything, if there is none. -/
def beforeFirst (c : Char) (s : String) : String := String.ofList (s.toList.takeWhile (· != c))

theorem split_ne_nil (sep : Char) (cs : List Char) : split sep cs ≠ [] := by
  cases cs with
  | nil => simp [split]
  | cons c rest =>
    unfold split
    split
    · simp
    · split <;> simp

theorem after?_eq_some_iff {lead cs rest : List Char} :
    after? lead cs = some rest ↔ cs = lead ++ rest := by
  induction lead generalizing cs with
  | nil => simp [after?]
  | cons w ws ih =>
    cases cs with
    | nil => simp [after?]
    | cons c cs =>
      by_cases h : w = c
      · simp [after?, h, ih]
      · simp [after?, h, Ne.symm h]

theorem before?_eq_some_iff {tail cs rest : List Char} :
    before? tail cs = some rest ↔ cs = rest ++ tail := by
  simp only [before?, Option.map_eq_some_iff, after?_eq_some_iff]
  constructor
  · rintro ⟨r, hr, rfl⟩
    simpa using congrArg List.reverse hr
  · rintro rfl
    exact ⟨rest.reverse, by simp, by simp⟩

theorem textAfter?_eq_some_iff {lead s rest : String} :
    textAfter? lead s = some rest ↔ s = lead ++ rest := by
  simp only [textAfter?, Option.map_eq_some_iff, after?_eq_some_iff]
  constructor
  · rintro ⟨cs, hcs, rfl⟩
    exact String.toList_inj.mp (by simp [hcs])
  · rintro rfl
    exact ⟨rest.toList, String.toList_append, String.ofList_toList⟩

theorem textAfter?_eq_none_iff {lead s : String} :
    textAfter? lead s = none ↔ ∀ rest, s ≠ lead ++ rest := by
  rw [Option.eq_none_iff_forall_ne_some]
  exact forall_congr' fun rest => not_congr textAfter?_eq_some_iff

/-- A text is another one without `lead` at its beginning, or that text itself if it does not begin
with `lead`. -/
def IsWithout (lead s rest : String) : Prop :=
  s = lead ++ rest ∨ (∀ r, s ≠ lead ++ r) ∧ rest = s

theorem isWithout_getD_textAfter? (lead s : String) :
    IsWithout lead s ((textAfter? lead s).getD s) := by
  cases h : textAfter? lead s with
  | none => exact .inr ⟨textAfter?_eq_none_iff.mp h,rfl⟩
  | some rest => exact .inl (textAfter?_eq_some_iff.mp h)

/-- Without `tail` at the end, however often it stands there. -/
def withoutEnds (tail cs : List Char) : List Char :=
  match _h : before? tail cs with
  | none => cs
  | some rest => if _ht : tail = [] then cs else withoutEnds tail rest
termination_by cs.length
decreasing_by
  rw [before?_eq_some_iff] at _h
  have := List.length_pos_iff.2 _ht
  simp [_h]
  omega

end DeployCheck.Text
