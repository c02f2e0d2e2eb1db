import DeployCheck.Proofs.Text.HexReading
import DeployCheck.Proofs.Text.Numerals
import Mathlib.Data.List.DropRight
import Mathlib.Data.List.TakeWhile

/-! Words and the blanks around them. A word has no blanks, so trimming leaves it whole, and it can
be told from a text that starts or ends with it. -/
namespace DeployCheck.Text

/-- A text without blanks. -/
def IsWord (cs : List Char) : Prop := ∀ c ∈ cs, isBlank c = false

instance (cs : List Char) : Decidable (IsWord cs) := List.decidableBAll _ cs

lemma IsWord.append {cs ds : List Char} (hcs : IsWord cs) (hds : IsWord ds) : IsWord (cs ++ ds) :=
  List.forall_mem_append.mpr ⟨hcs,hds⟩

lemma not_blank_of_isAlphanum {c : Char} (h : c.isAlphanum = true) : isBlank c = false := by
  rw [isAlphanum_iff] at h
  simp only [isBlank, Bool.or_eq_false_iff, Bool.and_eq_false_iff, decide_eq_false_iff_not,
    beq_eq_false_iff_ne]
  omega

lemma isWord_of_isAlphanum {cs : List Char} (h : ∀ c ∈ cs, c.isAlphanum = true) : IsWord cs :=
  fun c hc => not_blank_of_isAlphanum (h c hc)

lemma isAlphanum_of_mem_toDigits {n : Nat} : ∀ c ∈ Nat.toDigits 10 n, c.isAlphanum = true := by
  intro c hc
  simp [Char.isAlphanum, isDigit_of_mem_toDigits c hc]

/-! ## Trimming -/

lemma dropWhile_word {cs : List Char} (h : IsWord cs) : cs.dropWhile isBlank = cs := by
  cases cs with
  | nil => rfl
  | cons c cs => rw [List.dropWhile_cons_of_neg (by simp [h c])]

lemma trimEnd_word {cs : List Char} (h : IsWord cs) : trimEnd cs = cs := by
  have hreverse : IsWord cs.reverse := by simpa [IsWord] using h
  rw [trimEnd, dropWhile_word hreverse, List.reverse_reverse]

lemma trim_word {cs : List Char} (h : IsWord cs) : trim cs = cs := by
  rw [trim, trimStart, dropWhile_word h, trimEnd_word h]

lemma isPrefix_trimEnd (cs : List Char) : trimEnd cs <+: cs := List.rdropWhile_prefix isBlank cs

lemma mem_of_mem_trimEnd {cs : List Char} {c : Char} (h : c ∈ trimEnd cs) : c ∈ cs :=
  (isPrefix_trimEnd cs).subset h

lemma length_trim_le (cs : List Char) : (trim cs).length ≤ cs.length :=
  (isPrefix_trimEnd _).length_le.trans (List.dropWhile_sublist (p := isBlank) (l := cs)).length_le

lemma trimEnd_trimEnd (cs : List Char) : trimEnd (trimEnd cs) = trimEnd cs :=
  List.rdropWhile_idempotent isBlank cs

/-- Trimming goes on in front of what it takes whole. -/
theorem trimEnd_append (cs ds : List Char) :
    trimEnd (cs ++ ds) = if trimEnd ds = [] then trimEnd cs else cs ++ trimEnd ds := by
  simp only [trimEnd, List.reverse_append, List.dropWhile_append, List.reverse_eq_nil_iff,
    List.isEmpty_iff]
  split <;> simp

lemma trimEnd_append_of_ne_nil (cs : List Char) {ds : List Char} (h : trimEnd ds ≠ []) :
    trimEnd (cs ++ ds) = cs ++ trimEnd ds := by
  rw [trimEnd_append, if_neg h]

/-- What was trimmed behind a text can be told from the text trimmed as a whole. -/
theorem trimEnd_append_cancel (front : List Char) {cs ds : List Char}
    (h : trimEnd (front ++ cs) = trimEnd (front ++ ds)) : trimEnd cs = trimEnd ds := by
  -- a text that is longer than the one in front was not trimmed into that one
  have hlonger : ∀ {ds}, ds ≠ [] → trimEnd front ≠ front ++ ds := by
    intro ds hne heq
    have hlength := (isPrefix_trimEnd front).length_le
    have hpos := List.length_pos_of_ne_nil hne
    rw [heq, List.length_append] at hlength
    omega
  rw [trimEnd_append, trimEnd_append] at h
  split_ifs at h with hcs hds hds
  · rw [hcs, hds]
  · exact absurd h (hlonger hds)
  · exact absurd h.symm (hlonger hcs)
  · exact List.append_cancel_left h

lemma trimEnd_append_word (cs : List Char) {word : List Char} (h : IsWord word)
    (hne : word ≠ []) : trimEnd (cs ++ word) = cs ++ word := by
  have hword := trimEnd_word h
  rw [trimEnd_append_of_ne_nil cs (hword.symm ▸ hne), hword]

/-- A word in front is kept. -/
lemma trimEnd_word_append {word : List Char} (h : IsWord word) (cs : List Char) :
    trimEnd (word ++ cs) = word ++ trimEnd cs := by
  rw [trimEnd_append]
  split
  · next hnil => rw [hnil, List.append_nil, trimEnd_word h]
  · rfl

lemma trimEnd_blanks {cs : List Char} (h : ∀ c ∈ cs, isBlank c = true) : trimEnd cs = [] :=
  List.rdropWhile_eq_nil_iff.mpr h

/-- It does not matter which end is trimmed first. -/
lemma trimStart_trimEnd (cs : List Char) : trimStart (trimEnd cs) = trim cs := by
  induction cs with
  | nil => rfl
  | cons c cs ih =>
    by_cases hc : isBlank c = true
    · have hblank : ∀ d ∈ [c], isBlank d = true := by simpa using hc
      have hstart (ds : List Char) : trimStart ([c] ++ ds) = trimStart ds :=
        List.dropWhile_append_of_pos hblank
      rw [← List.singleton_append, trim, hstart, ← trim, ← ih, trimEnd_append, trimEnd_blanks hblank]
      split
      · next hcs => rw [hcs]
      · exact hstart _
    · have hword : IsWord [c] := by simpa [IsWord] using hc
      rw [trim, trimStart, trimStart, List.dropWhile_cons_of_neg hc, ← List.singleton_append,
        trimEnd_word_append hword, List.singleton_append, List.dropWhile_cons_of_neg hc]

lemma trim_reverse (cs : List Char) : trim cs.reverse = (trim cs).reverse := by
  rw [← trimStart_trimEnd, trim, trimEnd, trimEnd, trimStart, trimStart, List.reverse_reverse,
    List.reverse_reverse]

/-- Blanks at the ends do not count. -/
lemma trim_between {front back : List Char} (hfront : ∀ c ∈ front, isBlank c = true)
    (hback : ∀ c ∈ back, isBlank c = true) (cs : List Char) :
    trim (front ++ cs ++ back) = trim cs := by
  have hend : trimEnd (front ++ cs ++ back) = trimEnd (front ++ cs) := by
    rw [trimEnd_append, if_pos (trimEnd_blanks hback)]
  rw [← trimStart_trimEnd, hend, trimStart_trimEnd, trim, trimStart,
    List.dropWhile_append_of_pos hfront, ← trimStart, ← trim]

/-- Blanks around a word are trimmed. -/
lemma trim_word_between {front word back : List Char} (hfront : ∀ c ∈ front, isBlank c = true)
    (hword : IsWord word) (hback : ∀ c ∈ back, isBlank c = true) :
    trim (front ++ word ++ back) = word := by
  rw [trim_between hfront hback, trim_word hword]

/-- A text is what trimming leaves of it, with blanks around. -/
lemma exists_blanks_trim (cs : List Char) : ∃ front back, (∀ c ∈ front, isBlank c = true) ∧
    (∀ c ∈ back, isBlank c = true) ∧ cs = front ++ trim cs ++ back := by
  refine ⟨cs.takeWhile isBlank,(trimStart cs).rtakeWhile isBlank,
    fun _ => List.mem_takeWhile_imp,fun _ => List.mem_rtakeWhile_imp,?_⟩
  have hback : trim cs ++ (trimStart cs).rtakeWhile isBlank = trimStart cs :=
    List.rdropWhile_append_rtakeWhile
  rw [List.append_assoc, hback, trimStart, List.takeWhile_append_dropWhile]

/-! ## Telling words -/

/-- What follows a word, if anything does: a blank and more. -/
def StartsBlank (cs : List Char) : Prop := ∀ c ∈ cs.head?, isBlank c = true

lemma startsBlank_space (cs : List Char) : StartsBlank (' ' :: cs) := by
  rintro c ⟨⟩
  decide

lemma startsBlank_trimEnd {cs : List Char} (h : StartsBlank cs) : StartsBlank (trimEnd cs) := by
  cases cs with
  | nil => exact h
  | cons c cs =>
    have hc : trimEnd [c] = [] := by
      have hblank : isBlank c = true := h c rfl
      simp [trimEnd, hblank]
    have hcut := trimEnd_append [c] cs
    rw [List.singleton_append, hc] at hcut
    rw [hcut]
    split
    · simp [StartsBlank]
    · exact h

lemma takeWhile_word {word cs : List Char} (hword : IsWord word) (hcs : StartsBlank cs) :
    (word ++ cs).takeWhile (fun c => !isBlank c) = word := by
  rw [List.takeWhile_append_of_pos fun c hc => by rw [hword c hc]; rfl]
  cases cs with
  | nil => simp
  | cons c cs =>
    have hblank : isBlank c = true := hcs c rfl
    simp [hblank]

/-- The first word of a text can be told, and so can what follows it. -/
theorem word_append_inj {word other cs ds : List Char} (hword : IsWord word)
    (hother : IsWord other) (hcs : StartsBlank cs) (hds : StartsBlank ds)
    (h : word ++ cs = other ++ ds) : word = other ∧ cs = ds := by
  have hsame : word = other := by
    rw [← takeWhile_word hword hcs, h, takeWhile_word hother hds]
  subst hsame
  exact ⟨rfl,List.append_cancel_left h⟩

/-- Trimming the end leaves a first word to be told. -/
theorem trimEnd_word_append_inj {word other cs ds : List Char} (hword : IsWord word)
    (hother : IsWord other) (hcs : StartsBlank cs) (hds : StartsBlank ds)
    (h : trimEnd (word ++ cs) = trimEnd (other ++ ds)) : word = other ∧ trimEnd cs = trimEnd ds := by
  rw [trimEnd_word_append hword, trimEnd_word_append hother] at h
  exact word_append_inj hword hother (startsBlank_trimEnd hcs) (startsBlank_trimEnd hds) h

end DeployCheck.Text
