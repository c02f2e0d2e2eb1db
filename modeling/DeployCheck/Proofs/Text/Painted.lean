import DeployCheck.Proofs.Text.Blanks
import DeployCheck.Proofs.Text.Cuts
import DeployCheck.Text.Styled

/-! Painted texts and what a terminal shows of them. An escape starts a sequence, which is the next
character too or, behind a bracket, all up to a final character. What is left of styled spans
without the sequences is their bare texts. -/
namespace DeployCheck.Text

/-- Where in a painted text a reader is: between sequences, behind an escape, or behind the bracket
that opens a control sequence. -/
inductive Scan where
  | text
  | escaped
  | control
deriving DecidableEq, Repr

namespace Scan

def next : Scan → Char → Scan
  | .text, c => if c = '\x1b' then .escaped else .text
  | .escaped, c => if c = '[' then .control else .text
  | .control, c => if '@' ≤ c ∧ c ≤ '~' then .text else .control

/-- What stays of a character. -/
def kept : Scan → Char → List Char
  | .text, c => if c = '\x1b' then [] else [c]
  | _, _ => []

/-- Where the reader is behind a text. -/
def after (s : Scan) (cs : List Char) : Scan := cs.foldl next s

/-- What stays of a text. -/
def shown : Scan → List Char → List Char
  | _, [] => []
  | s, c :: cs => s.kept c ++ shown (s.next c) cs

lemma shown_append (s : Scan) (cs ds : List Char) :
    s.shown (cs ++ ds) = s.shown cs ++ (s.after cs).shown ds := by
  induction cs generalizing s with
  | nil => rfl
  | cons c cs ih => rw [List.cons_append, shown, shown, ih, List.append_assoc]; rfl

lemma after_append (s : Scan) (cs ds : List Char) : s.after (cs ++ ds) = (s.after cs).after ds :=
  List.foldl_append

end Scan

/-- A text without its escape sequences. -/
def bare (s : String) : String := String.ofList (Scan.text.shown s.toList)

/-- A text with blanks trimmed off each of its lines. -/
def trimLines (s : String) : String := "\n".intercalate ((fields '\n' s).map strippedEnd)

/-- A painted text shows a plain one, and no sequence is left open at its end. -/
structure Paints (painted plain : List Char) : Prop where
  shown : Scan.text.shown painted = plain
  closed : Scan.text.after painted = .text

namespace Paints

variable {painted plain : List Char}

lemma append (h : Paints painted plain) {more rest : List Char} (hmore : Paints more rest) :
    Paints (painted ++ more) (plain ++ rest) where
  shown := by rw [Scan.shown_append, h.shown, h.closed, hmore.shown]
  closed := by rw [Scan.after_append, h.closed, hmore.closed]

/-- A text without escapes shows itself. -/
lemma of_not_mem (h : '\x1b' ∉ plain) : Paints plain plain := by
  induction plain with
  | nil => exact ⟨rfl,rfl⟩
  | cons c plain ih =>
    obtain ⟨hc,hrest⟩ := List.ne_and_not_mem_of_not_mem_cons h
    have hfirst : Paints [c] [c] := by
      constructor <;> simp [Scan.shown, Scan.kept, Scan.after, Scan.next, Ne.symm hc]
    exact hfirst.append (ih hrest)

end Paints

lemma bare_eq_of_paints {painted plain : String} (h : Paints painted.toList plain.toList) :
    bare painted = plain := by
  rw [bare, h.shown, String.ofList_toList]

lemma paints_openCode (style : Style) : Paints (control style.openCode).toList [] := by
  cases style <;> constructor <;> decide

lemma paints_closeCode (style : Style) : Paints (control style.closeCode).toList [] := by
  cases style <;> constructor <;> decide

lemma paints_span {span : Span} (h : '\x1b' ∉ span.text.toList) :
    Paints (span.render true).toList (span.render false).toList := by
  obtain ⟨text,style⟩ := span
  have htext : Paints text.toList text.toList := .of_not_mem h
  cases style with
  | none => exact htext
  | some style =>
    have hspan := ((paints_openCode style).append htext).append (paints_closeCode style)
    rw [List.nil_append, List.append_nil] at hspan
    simpa only [Span.render, String.toList_append] using hspan

/-- Spans show their bare texts. -/
theorem paints_renderSpans {spans : List Span} (h : ∀ span ∈ spans, '\x1b' ∉ span.text.toList) :
    Paints (renderSpans true spans).toList (renderSpans false spans).toList := by
  induction spans with
  | nil => exact ⟨rfl,rfl⟩
  | cons span spans ih =>
    rw [List.forall_mem_cons] at h
    have hspans := (paints_span h.1).append (ih h.2)
    simpa only [renderSpans, List.map_cons, String.join_cons, String.toList_append] using hspans

/-- Lines show their bare texts, line by line. -/
theorem paints_lines {spans : List Span} (h : ∀ span ∈ spans, '\x1b' ∉ span.text.toList) :
    Paints (String.join (spans.map fun span => span.render true ++ "\n")).toList
      (String.join (spans.map fun span => span.render false ++ "\n")).toList := by
  have hbreak : Paints "\n".toList "\n".toList := .of_not_mem (by decide)
  induction spans with
  | nil => exact ⟨rfl,rfl⟩
  | cons span spans ih =>
    rw [List.forall_mem_cons] at h
    have hlines := ((paints_span h.1).append hbreak).append (ih h.2)
    simpa only [List.map_cons, String.join_cons, String.toList_append] using hlines

lemma mem_renderSpans {spans : List Span} {span : Span} (h : span ∈ spans) {c : Char}
    (hc : c ∈ span.text.toList) : c ∈ (renderSpans false spans).toList := by
  rw [renderSpans, String.toList_join, List.mem_flatMap]
  exact ⟨_,List.mem_map_of_mem h,hc⟩

/-- A style is ended behind its text, so that no blank is left to be trimmed. -/
lemma trimEnd_renderSpans (spans : List Span) (text : String) (style : Style) :
    trimEnd (renderSpans true (spans ++ [⟨text, some style⟩])).toList =
      (renderSpans true (spans ++ [⟨text, some style⟩])).toList := by
  have hword : IsWord (control style.closeCode).toList := by cases style <;> decide
  have hne : (control style.closeCode).toList ≠ [] := by simp [control]
  have hlast : (renderSpans true (spans ++ [⟨text, some style⟩])).toList =
      ((renderSpans true spans).toList ++ (control style.openCode ++ text).toList) ++
        (control style.closeCode).toList := by
    simp [renderSpans, Span.render]
  rw [hlast, trimEnd_append_word _ hword hne]

/-! ## Lines -/

lemma trimLines_append {line : List Char} (h : '\n' ∉ line) (rest : List Char) :
    trimLines (String.ofList (line ++ '\n' :: rest)) =
      String.ofList (trimEnd line) ++ "\n" ++ trimLines (String.ofList rest) := by
  have hne : (split '\n' rest).map (strippedEnd ∘ String.ofList) ≠ [] := by
    simpa using split_ne_nil '\n' rest
  simp only [trimLines, fields, String.toList_ofList, split_append_cons, split_of_not_mem h,
    List.map_map, List.singleton_append, List.map_cons, String.intercalate_cons_of_ne_nil hne]
  simp [strippedEnd]

/-- Trimmed painted lines are the trimmed lines that they show. -/
theorem trimLines_bare_join {painted plain : List String}
    (h : List.Forall₂ (fun line shown => ∃ cs, Paints line.toList cs ∧ '\n' ∉ cs ∧
      String.ofList (trimEnd cs) = shown) painted plain) :
    trimLines (bare (String.join (painted.map (· ++ "\n")))) =
      String.join (plain.map (· ++ "\n")) := by
  induction h with
  | nil => decide
  | @cons line shown painted plain hline _ ih =>
    obtain ⟨cs,hpaints,hbreak,rfl⟩ := hline
    have hbreakShown : Paints ['\n'] ['\n'] := .of_not_mem (by decide)
    have hended := hpaints.append hbreakShown
    have hbare : bare (String.join ((line :: painted).map (· ++ "\n"))) =
        String.ofList (cs ++ '\n' :: (bare (String.join (painted.map (· ++ "\n")))).toList) := by
      have hfirst : (String.join ((line :: painted).map (· ++ "\n"))).toList =
          (line.toList ++ ['\n']) ++ (String.join (painted.map (· ++ "\n"))).toList := by
        simp [String.join_cons]
      rw [bare, bare, hfirst, Scan.shown_append, hended.shown, hended.closed,
        String.toList_ofList, List.append_assoc]
      rfl
    rw [hbare, trimLines_append hbreak, String.ofList_toList, ih, List.map_cons, String.join_cons]

end DeployCheck.Text
