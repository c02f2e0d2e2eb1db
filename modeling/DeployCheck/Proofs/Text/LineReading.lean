import DeployCheck.Text.Lines
import Mathlib.Data.List.Basic

/-! The lines of a text determine it, and texts that are lines are the lines of what they form
together. -/
namespace DeployCheck.Text

/-- A line with its end: no newline but the last character, which is one. -/
def IsEnded (cs : List Char) : Prop := ∃ body, '\n' ∉ body ∧ cs = body ++ ['\n']

lemma IsEnded.append {cs : List Char} (h : IsEnded cs) (lead : List Char) (hlead : '\n' ∉ lead) :
    IsEnded (lead ++ cs) := by
  obtain ⟨body,hbody,rfl⟩ := h
  exact ⟨lead ++ body,by simp [hlead, hbody],(List.append_assoc _ _ _).symm⟩

/-- Lines form the text that they are read from. -/
lemma join_linesOf (s : String) : String.join (linesOf s) = s := by
  rw [← String.toList_inj, String.toList_join, linesOf, List.flatMap_map, List.flatMap_def]
  simpa using flatten_lines s.toList

theorem linesOf_injective : Function.Injective linesOf :=
  Function.LeftInverse.injective join_linesOf

lemma lines_of_not_mem {cs : List Char} (hne : cs ≠ []) (h : '\n' ∉ cs) : lines cs = [cs] := by
  induction cs with
  | nil => exact absurd rfl hne
  | cons c cs ih =>
    obtain ⟨hc,hcs⟩ := List.ne_and_not_mem_of_not_mem_cons h
    rw [lines_cons]
    cases cs with
    | nil => simp [consLine, hc.symm]
    | cons d cs => simp [ih (by simp) hcs, consLine, hc.symm]

lemma lines_append_of_isEnded {cs : List Char} (h : IsEnded cs) (rest : List Char) :
    lines (cs ++ rest) = cs :: lines rest := by
  obtain ⟨body,hbody,rfl⟩ := h
  induction body with
  | nil => simp [lines_cons, consLine]
  | cons c body ih =>
    obtain ⟨hc,hbody⟩ := not_or.mp (List.mem_cons.not.mp hbody)
    rw [List.append_assoc, List.cons_append, lines_cons, ← List.append_assoc, ih hbody]
    simp [consLine, Ne.symm hc]

/-- Ended lines are the lines of their concatenation. -/
theorem lines_flatten {ls : List (List Char)} (h : ∀ l ∈ ls, IsEnded l) : lines ls.flatten = ls := by
  induction ls with
  | nil => rfl
  | cons l ls ih =>
    rw [List.forall_mem_cons] at h
    rw [List.flatten_cons, lines_append_of_isEnded h.1, ih h.2]

/-- Ended texts are the lines of what they form together. -/
theorem linesOf_join {ls : List String} (h : ∀ l ∈ ls, IsEnded l.toList) :
    linesOf (String.join ls) = ls := by
  have hjoin : (String.join ls).toList = (ls.map String.toList).flatten := by
    rw [String.toList_join, List.flatMap_def]
  rw [linesOf, hjoin, lines_flatten (List.forall_mem_map.mpr h), List.map_map]
  simp [Function.comp_def]

/-- Texts cut into lines: all end in their newline, but the last one may lack it. -/
inductive Cut : List String → Prop
  | nil : Cut []
  | last {line : String} (open_end : '\n' ∉ line.toList) : Cut [line]
  | cons {line : String} {rest : List String} (ended : IsEnded line.toList) (tail : Cut rest) :
    Cut (line :: rest)

lemma Cut.consLine {ls : List (List Char)} (h : Cut (ls.map String.ofList)) (c : Char) :
    Cut ((consLine c ls).map String.ofList) := by
  unfold Text.consLine
  split
  · next hc =>
    exact .cons ⟨[],by simp [hc]⟩ h
  · next hc =>
    cases ls with
    | nil => exact .last (by simpa using Ne.symm hc)
    | cons l ls =>
      rw [List.map_cons] at h ⊢
      generalize ls.map String.ofList = rest at h ⊢
      cases h with
      | last hopen => exact .last (by simpa [Ne.symm hc] using hopen)
      | cons hended htail =>
        obtain ⟨body,hbody,hl⟩ := hended
        refine .cons ⟨c :: body,by simp [hbody, Ne.symm hc],?_⟩ htail
        rw [String.toList_ofList] at hl ⊢
        rw [hl, List.cons_append]

theorem cut_linesOf (s : String) : Cut (linesOf s) := by
  unfold linesOf lines
  induction s.toList with
  | nil => exact .nil
  | cons c cs ih => exact ih.consLine c

/-- A text is cut into lines: they form it together, and none of them is empty. -/
structure CutInto (s : String) (ls : List String) : Prop where
  joined : String.join ls = s
  nonempty : "" ∉ ls
  cut : Cut ls

lemma nil_not_mem_lines (cs : List Char) : [] ∉ lines cs := by
  induction cs with
  | nil => simp
  | cons c cs ih =>
    rw [lines_cons]
    unfold Text.consLine
    split
    · simpa using ih
    · cases hlines : lines cs with
      | nil => simp
      | cons line rest =>
        rw [hlines] at ih
        simpa using (not_or.mp (List.mem_cons.not.mp ih)).2

lemma Cut.linesOf_join {ls : List String} (h : Cut ls) (hnonempty : "" ∉ ls) :
    linesOf (String.join ls) = ls := by
  induction h with
  | nil => rfl
  | @last line hopen =>
    have hline : line.toList ≠ [] := by simpa using (List.ne_of_not_mem_cons hnonempty).symm
    have hjoin : (String.join [line]).toList = line.toList := by simp
    rw [linesOf, hjoin, lines_of_not_mem hline hopen, List.map_singleton, String.ofList_toList]
  | @cons line rest hended _ ih =>
    have hjoin : (String.join (line :: rest)).toList = line.toList ++ (String.join rest).toList := by
      simp [String.toList_join]
    have hrest := ih (not_or.mp (List.mem_cons.not.mp hnonempty)).2
    rw [linesOf, hjoin, lines_append_of_isEnded hended, List.map_cons, ← linesOf, hrest,
      String.ofList_toList]

/-- The lines of a text are its only cut. -/
theorem linesOf_eq_iff {s : String} {ls : List String} : linesOf s = ls ↔ CutInto s ls := by
  constructor
  · rintro rfl
    refine ⟨join_linesOf s,?_,cut_linesOf s⟩
    intro hmem
    obtain ⟨line,hline,hempty⟩ := List.mem_map.mp hmem
    obtain rfl : line = [] := by simpa using hempty
    exact nil_not_mem_lines _ hline
  · rintro ⟨rfl,hnonempty,hcut⟩
    exact hcut.linesOf_join hnonempty

lemma Cut.isEnded_or_not_mem {ls : List String} (h : Cut ls) :
    ∀ l ∈ ls, IsEnded l.toList ∨ '\n' ∉ l.toList := by
  induction h with
  | nil => simp
  | last hopen => simp [hopen]
  | cons hended _ ih => exact List.forall_mem_cons.mpr ⟨.inl hended,ih⟩

/-! ## Lines without their ends -/

/-- A text as lines without their ends. A line ends in a newline, of which a carriage return in
front is a part; the last line may lack its end. -/
inductive HasLines : List Char → List (List Char) → Prop
  | nil : HasLines [] []
  | last {line : List Char} (nonempty : line ≠ []) (open_end : '\n' ∉ line) : HasLines line [line]
  | newline {line rest : List Char} {lines : List (List Char)} (inside : '\n' ∉ line)
    (bare : line.getLast? ≠ some '\r') (tail : HasLines rest lines) :
    HasLines (line ++ '\n' :: rest) (line :: lines)
  | carriageReturn {line rest : List Char} {lines : List (List Char)} (inside : '\n' ∉ line)
    (tail : HasLines rest lines) : HasLines (line ++ '\r' :: '\n' :: rest) (line :: lines)

lemma lineContent_of_not_mem {cs : List Char} (h : '\n' ∉ cs) : lineContent cs = cs := by
  unfold lineContent
  split
  · next heq => exact absurd (List.mem_reverse.mp (by simp [heq])) h
  · next heq => exact absurd (List.mem_reverse.mp (by simp [heq])) h
  · rfl

lemma lineContent_newline {line : List Char} (h : line.getLast? ≠ some '\r') :
    lineContent (line ++ ['\n']) = line := by
  unfold lineContent
  rw [List.reverse_append, List.reverse_singleton, List.singleton_append]
  split
  · next heq =>
    rw [List.cons.injEq] at heq
    rw [List.getLast?_eq_head?_reverse, heq.2] at h
    exact absurd rfl h
  · next heq =>
    rw [← (List.cons.inj heq).2, List.reverse_reverse]
  · next hplain => exact absurd rfl (hplain _)

lemma lineContent_carriageReturn (line : List Char) :
    lineContent (line ++ ['\r', '\n']) = line := by
  simp [lineContent]

/-- What is left of the lines of a text without their ends are its lines. -/
theorem hasLines_lines (cs : List Char) : HasLines cs ((lines cs).map lineContent) := by
  induction hn : cs.length using Nat.strongRecOn generalizing cs with
  | ind n ih =>
    by_cases hmem : '\n' ∈ cs
    · obtain ⟨line,rest,rfl,hline⟩ := List.eq_append_cons_of_mem hmem
      have hcut : lines (line ++ '\n' :: rest) = (line ++ ['\n']) :: lines rest := by
        rw [List.append_cons, lines_append_of_isEnded ⟨line,hline,rfl⟩]
      have htail := ih rest.length (by simp [← hn]; omega) rest rfl
      rw [hcut, List.map_cons]
      by_cases hlast : line.getLast? = some '\r'
      · obtain ⟨front,rfl⟩ := List.getLast?_eq_some_iff.mp hlast
        rw [List.append_assoc, List.append_assoc, List.singleton_append, List.singleton_append,
          lineContent_carriageReturn]
        exact .carriageReturn (fun h => hline (List.mem_append_left _ h)) htail
      · rw [lineContent_newline hlast]
        exact .newline hline hlast htail
    · by_cases hne : cs = []
      · subst hne
        exact .nil
      · rw [lines_of_not_mem hne hmem, List.map_singleton, lineContent_of_not_mem hmem]
        exact .last hne hmem

end DeployCheck.Text
