import DeployCheck.Proofs.Bytecode.RowLines
import DeployCheck.Proofs.Text.Painted

/-! Listings of differences in colour. What a terminal shows of them is the listing without colour,
line by line, and that one has no escapes. -/
namespace DeployCheck.Bytecode

open Text

lemma Printed.escape_not_mem {s : String} (h : Printed s) : '\x1b' ∉ s.toList :=
  fun hmem => absurd (h _ hmem) (by decide)

/-- A painted line shows one that is, once trimmed, the line without colour. -/
def LineShows (painted plain : String) : Prop :=
  ∃ cs, Paints painted.toList cs ∧ '\n' ∉ cs ∧ String.ofList (trimEnd cs) = plain

lemma lineShows_legend : LineShows (legend true) (legend false) := by
  refine ⟨(legend false).toList,paints_renderSpans ?_,printed_legend.newline_not_mem,?_⟩
  · decide +kernel
  · decide +kernel

namespace Row

/-- Either nothing of a row is painted or its end is. -/
lemma spans_cases (row : Row) : (∃ text, row.spans = [⟨text, none⟩]) ∨
    ∃ front text style, row.spans = front ++ [⟨text, some style⟩] := by
  obtain ⟨index,pairing⟩ := row
  cases pairing with
  | same i => exact .inl ⟨_,rfl⟩
  | differs a e tolerated => exact .inr ⟨[_,_,_,_,_,_,_],_,_,rfl⟩
  | actualOnly i => exact .inr ⟨[_],_,_,rfl⟩
  | expectedOnly i => exact .inr ⟨[_],_,_,rfl⟩

lemma lineShows_line (row : Row) : LineShows (row.line true) (row.line false) := by
  have hescape : ∀ span ∈ row.spans, '\x1b' ∉ span.text.toList := fun span hspan hc =>
    row.printed_plain.escape_not_mem (mem_renderSpans hspan hc)
  rcases row.spans_cases with ⟨text,hspans⟩ | ⟨front,text,style,hspans⟩
  · have hsame : row.line true = row.line false := by
      rw [line, line, hspans]
      rfl
    refine ⟨(row.line false).toList,?_,row.printed_line.newline_not_mem,?_⟩
    · rw [hsame]
      exact .of_not_mem row.printed_line.escape_not_mem
    · rw [line, strippedEnd, String.toList_ofList, trimEnd_trimEnd]
  · have hwhole : (row.line true).toList = (renderSpans true row.spans).toList := by
      rw [line, strippedEnd, String.toList_ofList, hspans, trimEnd_renderSpans]
    refine ⟨(renderSpans false row.spans).toList,?_,row.printed_plain.newline_not_mem,rfl⟩
    rw [hwhole]
    exact paints_renderSpans hescape

end Row

/-- Every painted line, of a row or of a gap, shows the plain one in its place. -/
theorem lineShows_rowLines (next : Nat) (rows : List Row) :
    List.Forall₂ LineShows (rowLines true next rows) (rowLines false next rows) := by
  have hdots : LineShows "..." "..." := ⟨"...".toList,.of_not_mem (by decide),by decide,by decide⟩
  induction rows generalizing next with
  | nil => exact .nil
  | cons row rows ih =>
    have hlines := List.Forall₂.cons row.lineShows_line (ih (row.index + 1))
    rw [rowLines, rowLines]
    split
    · exact .cons hdots hlines
    · exact hlines

lemma escape_not_mem_renderRows (rows : List Row) : '\x1b' ∉ (renderRows false rows).toList := by
  have hprinted := List.forall_mem_cons.mpr ⟨printed_legend,printed_rowLines 0 rows⟩
  intro hmem
  rw [renderRows, String.toList_join, List.mem_flatMap] at hmem
  obtain ⟨ended,hended,hmem⟩ := hmem
  obtain ⟨line,hline,rfl⟩ := List.mem_map.mp hended
  rw [String.toList_append, List.mem_append] at hmem
  rcases hmem with hmem | hmem
  · exact (hprinted line hline).escape_not_mem hmem
  · exact absurd hmem (by decide)

/-- A listing in colour is the listing without colour, once its escape sequences are taken out and
blanks are trimmed off its lines. The listing without colour has no escapes. -/
theorem trimLines_bare_renderRows (rows : List Row) :
    trimLines (bare (renderRows true rows)) = renderRows false rows ∧
      '\x1b' ∉ (renderRows false rows).toList :=
  ⟨trimLines_bare_join (.cons lineShows_legend (lineShows_rowLines 0 rows)),
    escape_not_mem_renderRows rows⟩

end DeployCheck.Bytecode
