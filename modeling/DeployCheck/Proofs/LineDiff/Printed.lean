import DeployCheck.LineDiff.Unified
import DeployCheck.Proofs.Text.LineReading
import DeployCheck.Proofs.Text.Numerals

/-! Printed diffs. What a diff prints is read back line by line, with the newlines that printing
adds. -/
namespace DeployCheck.LineDiff

open Text

lemma endsWith_newline_iff (s : String) :
    endsWith "\n" s = true ↔ ∃ body, s.toList = body ++ ['\n'] := by
  simp only [endsWith, Option.isSome_iff_exists, before?_eq_some_iff]
  rfl

lemma ended_of_isEnded {line : String} (h : IsEnded line.toList) : ended line = line := by
  obtain ⟨body,-,hbody⟩ := h
  exact if_pos ((endsWith_newline_iff line).mpr ⟨body,hbody⟩)

lemma ended_of_not_mem {line : String} (h : '\n' ∉ line.toList) : ended line = line ++ "\n" := by
  refine if_neg fun hends => h ?_
  obtain ⟨body,hbody⟩ := (endsWith_newline_iff line).mp hends
  simp [hbody]

lemma isEnded_ended {line : String} (h : IsEnded line.toList ∨ '\n' ∉ line.toList) :
    IsEnded (ended line).toList := by
  rcases h with h | h
  · rwa [ended_of_isEnded h]
  · rw [ended_of_not_mem h]
    exact ⟨line.toList,h,by simp⟩

namespace Line

/-- The line with the newline that printing adds. -/
def closed : Line → Line
  | .context line => .context (ended line)
  | .removed line => .removed (ended line)
  | .added line => .added (ended line)
  | .header b m a n => .header b m a n

/-- Takes a number off the front. -/
def number (cs : List Char) : Nat × List Char :=
  (Nat.ofDigitChars 10 (cs.takeWhile Char.isDigit) 0, cs.dropWhile Char.isDigit)

/-- Reads the header of a block. -/
def readHeader? (cs : List Char) : Option Line := do
  let cs ← after? "@@ -".toList cs
  let (b, cs) := number cs
  let cs ← after? [','] cs
  let (m, cs) := number cs
  let cs ← after? " +".toList cs
  let (a, cs) := number cs
  let cs ← after? [','] cs
  let (n, cs) := number cs
  if cs = " @@\n".toList then some (.header b m a n) else none

/-- Reads a line of a diff by its first character. -/
def read? : List Char → Option Line
  | ' ' :: line => some (.context (String.ofList line))
  | '-' :: line => some (.removed (String.ofList line))
  | '+' :: line => some (.added (String.ofList line))
  | cs => readHeader? cs

lemma number_toDigits (n : Nat) {c : Char} (hc : c.isDigit = false) (rest : List Char) :
    number (Nat.toDigits 10 n ++ c :: rest) = (n, c :: rest) := by
  have hdigits : ∀ d ∈ Nat.toDigits 10 n, d.isDigit = true := fun d hd =>
    Nat.isDigit_of_mem_toDigits (by omega) (by omega) hd
  unfold number
  rw [List.takeWhile_append_of_pos hdigits, List.dropWhile_append_of_pos hdigits]
  simp [hc]

lemma after?_append (lead rest : List Char) : after? lead (lead ++ rest) = some rest :=
  after?_eq_some_iff.mpr rfl

lemma toList_text_header (b m a n : Nat) :
    (header b m a n).text.toList = "@@ -".toList ++ (Nat.toDigits 10 b ++ ',' ::
      (Nat.toDigits 10 m ++ ' ' :: '+' :: (Nat.toDigits 10 a ++ ',' ::
        (Nat.toDigits 10 n ++ ' ' :: "@@\n".toList)))) := by
  simp [text]
  rfl

lemma readHeader?_text (b m a n : Nat) :
    readHeader? (header b m a n).text.toList = some (.header b m a n) := by
  have hcomma : ','.isDigit = false := rfl
  have hblank : ' '.isDigit = false := rfl
  rw [toList_text_header, readHeader?]
  simp only [after?_append, number_toDigits _ hcomma, number_toDigits _ hblank, after?,
    Option.bind_eq_bind, Option.bind_some, String.reduceToList, if_true]

/-- What is printed is read back. -/
theorem read?_text (l : Line) : read? l.text.toList = some l.closed := by
  cases l with
  | header b m a n =>
    have hread := readHeader?_text b m a n
    rw [toList_text_header] at hread ⊢
    exact hread
  | context line => simp [text, read?, closed]
  | removed line => simp [text, read?, closed]
  | added line => simp [text, read?, closed]

/-- The first character of a line's text. -/
def mark : Line → Char
  | .header .. => '@'
  | .context _ => ' '
  | .removed _ => '-'
  | .added _ => '+'

lemma head?_text (l : Line) : l.text.toList.head? = some l.mark := by
  cases l with
  | header => simp [toList_text_header, mark]
  | _ => simp [text, mark]

/-- What a line shows of a text; nothing for a header. -/
def content : Line → String
  | .context line | .removed line | .added line => line
  | .header .. => ""

/-- What the line shows is no more than one line. -/
def IsSingle (l : Line) : Prop := IsEnded l.content.toList ∨ '\n' ∉ l.content.toList

lemma isEnded_text {l : Line} (h : l.IsSingle) : IsEnded l.text.toList := by
  have hmarked (mark line : String) (hmark : '\n' ∉ mark.toList)
      (hline : IsEnded line.toList ∨ '\n' ∉ line.toList) :
      IsEnded (mark ++ ended line).toList := by
    rw [String.toList_append]
    exact (isEnded_ended hline).append _ hmark
  cases l with
  | header b m a n =>
    have hend : IsEnded (' ' :: "@@\n".toList) := ⟨" @@".toList,by decide,rfl⟩
    have hlast := hend.append _ (newline_not_mem_toDigits n)
    have hafter := (hlast.append [','] (by decide)).append _ (newline_not_mem_toDigits a)
    have hlength := (hafter.append [' ', '+'] (by decide)).append _
      (newline_not_mem_toDigits m)
    have hbefore := (hlength.append [','] (by decide)).append _ (newline_not_mem_toDigits b)
    rw [toList_text_header]
    exact hbefore.append _ (by decide)
  | context line => exact hmarked " " line (by decide) h
  | removed line => exact hmarked "-" line (by decide) h
  | added line => exact hmarked "+" line (by decide) h

end Line

/-- Reads a diff. -/
def read? (diff : String) : Option (List Line) := (lines diff.toList).mapM Line.read?

/-- How many lines of a diff start with a mark. -/
def countMarked (mark : Char) (diff : String) : Nat :=
  (lines diff.toList).countP fun line => line.head? == some mark

section Printed

variable {ls : List Line}

lemma lines_printed (h : ∀ l ∈ ls, l.IsSingle) :
    lines (printed ls).toList = ls.map fun l => l.text.toList := by
  have hflat : (printed ls).toList = (ls.map fun l => l.text.toList).flatten := by
    rw [printed, String.toList_join, List.flatMap_map, List.flatMap_def]
  rw [hflat]
  refine lines_flatten fun line hline => ?_
  obtain ⟨l,hl,rfl⟩ := List.mem_map.mp hline
  exact Line.isEnded_text (h l hl)

/-- A printed diff is read as the lines that it was printed from, newlines added. -/
theorem read?_printed (h : ∀ l ∈ ls, l.IsSingle) : read? (printed ls) = some (ls.map Line.closed) := by
  rw [read?, lines_printed h, List.mapM_map]
  clear h
  induction ls with
  | nil => rfl
  | cons l ls ih => simp [List.mapM_cons, Line.read?_text, ih]

lemma countMarked_printed (mark : Char) (h : ∀ l ∈ ls, l.IsSingle) :
    countMarked mark (printed ls) = ls.countP fun l => l.mark == mark := by
  rw [countMarked, lines_printed h, List.countP_map]
  simp [Function.comp_def, Line.head?_text]

end Printed

end DeployCheck.LineDiff
