import DeployCheck.Bytecode.Row
import DeployCheck.Proofs.Text.Blanks
import DeployCheck.Proofs.Text.LineReading

/-! The lines of a listing of differences without colour. Every row is one line with its marker and
its index in front, so the lines alone tell which rows were listed. -/
namespace DeployCheck.Bytecode

open Text

/-! ## What a line shows -/

/-- A line with a marker and an index in front of other text. -/
def Shows (marker : Char) (index : Nat) (line : String) : Prop :=
  ∃ digits rest, line.toList = marker :: ' ' :: (digits ++ ' ' :: rest) ∧ Numeral 4 index digits

/-- Lines for ascending indices from `next` on, with dots wherever an index was left out. -/
inductive Spaced : Nat → List Nat → List String → Prop
  | nil {next : Nat} : Spaced next [] []
  | adjacent {i : Nat} {is : List Nat} {marker : Char} {line : String} {rest : List String}
      (h : Shows marker i line) (tail : Spaced (i + 1) is rest) : Spaced i (i :: is) (line :: rest)
  | gap {next i : Nat} {is : List Nat} {marker : Char} {line : String} {rest : List String}
      (hgap : next < i) (h : Shows marker i line) (tail : Spaced (i + 1) is rest) :
      Spaced next (i :: is) ("...\n" :: line :: rest)

/-- The lines that start with a marker. -/
def starting (marker : Char) (ls : List String) : List String :=
  ls.filter fun l => l.toList.head? == some marker

lemma Shows.head?_eq {marker : Char} {index : Nat} {line : String} (h : Shows marker index line) :
    line.toList.head? = some marker := by
  obtain ⟨digits,rest,hline,-⟩ := h
  rw [hline, List.head?_cons]

lemma Shows.append {marker : Char} {index : Nat} {line : String} (h : Shows marker index line)
    (more : String) : Shows marker index (line ++ more) := by
  obtain ⟨digits,rest,hline,hdigits⟩ := h
  exact ⟨digits,rest ++ more.toList,by simp [hline],hdigits⟩

/-! ## Characters -/

/-- A text of printed ASCII, so without line breaks and escapes. -/
def Printed (s : String) : Prop := ∀ c ∈ s.toList, 0x20 ≤ c.toNat ∧ c.toNat ≤ 0x7e

instance (s : String) : Decidable (Printed s) := List.decidableBAll _ s.toList

lemma Printed.append {s t : String} (hs : Printed s) (ht : Printed t) : Printed (s ++ t) := by
  rw [Printed, String.toList_append, List.forall_mem_append]
  exact ⟨hs,ht⟩

lemma printed_of_isAlphanum {s : String} (h : ∀ c ∈ s.toList, c.isAlphanum = true) :
    Printed s := by
  intro c hc
  have hrange := isAlphanum_iff.mp (h c hc)
  omega

lemma Printed.padRight {s : String} (h : Printed s) (width : Nat) :
    Printed (padRight width s) := by
  refine h.append fun c hc => ?_
  rw [String.toList_ofList] at hc
  rw [List.eq_of_mem_replicate hc]
  decide

lemma Printed.strippedEnd {s : String} (h : Printed s) : Printed (strippedEnd s) := by
  intro c hc
  rw [Text.strippedEnd, String.toList_ofList] at hc
  exact h c (mem_of_mem_trimEnd hc)

lemma Printed.newline_not_mem {s : String} (h : Printed s) : '\n' ∉ s.toList :=
  fun hmem => absurd (h _ hmem) (by decide)

lemma isAlphanum_of_mem_hexDigitsUpper {width n : Nat} :
    ∀ c ∈ (hexDigitsUpper width n).toList, c.isAlphanum = true := by
  have hdigits : ∀ c ∈ "0123456789ABCDEF".toList, c.isAlphanum = true :=
    List.all_eq_true.mp (by decide)
  exact fun c hc => hdigits c ((numeral_hexDigitsUpper width n).uppercase c hc)

lemma isWord_hexDigitsUpper (width n : Nat) : IsWord (hexDigitsUpper width n).toList :=
  isWord_of_isAlphanum isAlphanum_of_mem_hexDigitsUpper

lemma isAlphanum_of_mem_encode {bs : List UInt8} :
    ∀ c ∈ (Hex.encode bs).toList, c.isAlphanum = true := by
  intro c hc
  rw [Hex.encode, String.toList_ofList] at hc
  have hdigit := (Hex.digits_of_bytes (Hex.bytes_flatMap_pair bs)).1 c hc
  rw [Hex.isDigit_iff] at hdigit
  rw [isAlphanum_iff]
  omega

/-- Names are listed, or made of a family's name and a number. -/
lemma named_of_mnemonic? {b : UInt8} {name : String} (h : mnemonic? b = some name) :
    name ∈ namedRuns.flatMap Prod.snd ∨
      ∃ f ∈ families, ∃ n : Nat, name = f.2.2.1 ++ toString n := by
  simp only [mnemonic?, Option.orElse_eq_orElse, Option.orElse_eq_or, Option.or_eq_some_iff] at h
  rcases h with hlisted | ⟨-,hnumbered⟩
  · obtain ⟨⟨first,names⟩,hrun,hname⟩ := List.exists_of_findSome?_eq_some hlisted
    split at hname
    · exact .inl (List.mem_flatMap.mpr ⟨_,hrun,List.mem_of_getElem? hname⟩)
    · cases hname
  · obtain ⟨⟨first,last,lead,base⟩,hfamily,hname⟩ := List.exists_of_findSome?_eq_some hnumbered
    split at hname
    · cases hname
      exact .inr ⟨_,hfamily,_,rfl⟩
    · cases hname

/-- Names are made of letters and digits. -/
lemma isAlphanum_of_mem_mnemonic {b : UInt8} :
    ∀ c ∈ (mnemonic b).toList, c.isAlphanum = true := by
  have hlisted : ∀ name ∈ namedRuns.flatMap Prod.snd,
      name.toList.all Char.isAlphanum = true := by decide +kernel
  have hfamilies : ∀ f ∈ families, f.2.2.1.toList.all Char.isAlphanum = true := by decide
  unfold mnemonic
  cases h : mnemonic? b with
  | none => exact List.all_eq_true.mp (by decide)
  | some name =>
    rcases named_of_mnemonic? h with hname | ⟨f,hfamily,n,rfl⟩
    · exact List.all_eq_true.mp (hlisted name hname)
    · rw [Option.getD_some, String.toList_append, List.forall_mem_append]
      exact ⟨List.all_eq_true.mp (hfamilies f hfamily),by simpa using isAlphanum_of_mem_toDigits⟩

lemma isAlphanum_of_mem_immediateText {i : Instruction} :
    ∀ c ∈ i.immediateText.toList, c.isAlphanum = true := by
  unfold Instruction.immediateText
  split
  · simp
  · rw [String.toList_append, List.forall_mem_append]
    exact ⟨List.all_eq_true.mp (by decide),isAlphanum_of_mem_encode⟩

namespace Row

/-- The character in front of a row. -/
def marker (row : Row) : Char :=
  match row.pairing with
  | .same _ => ' '
  | .differs _ _ tolerated => if tolerated then '~' else '!'
  | .actualOnly _ => '+'
  | .expectedOnly _ => '-'

lemma marker_mem (row : Row) : row.marker ∈ [' ','~','!','+','-'] := by
  obtain ⟨index,pairing⟩ := row
  cases pairing with
  | differs a e tolerated => cases tolerated <;> simp [marker]
  | same i | actualOnly i | expectedOnly i => simp [marker]

/-- What a row shows behind its index. -/
def shown (row : Row) : String :=
  match row.pairing with
  | .same i | .actualOnly i | .expectedOnly i => cells i
  | .differs a e _ => cells a ++ " | expected " ++ wanted e

/-- Opcode, a name for it and data of an instruction. -/
def columns (name : UInt8 → String) (i : Instruction) : String :=
  opcodeCell i ++ " " ++ name i.opcode ++ " " ++ i.immediateText

lemma cells_eq_columns (i : Instruction) :
    cells i = columns (fun opcode => padRight 14 (mnemonic opcode)) i := rfl

lemma wanted_eq_columns (i : Instruction) : wanted i = strippedEnd (columns mnemonic i) := rfl

lemma printed_columns {name : UInt8 → String} {i : Instruction} (hname : Printed (name i.opcode)) :
    Printed (columns name i) := by
  have hopcode : Printed (opcodeCell i) := printed_of_isAlphanum isAlphanum_of_mem_hexDigitsUpper
  have hdata : Printed i.immediateText := printed_of_isAlphanum isAlphanum_of_mem_immediateText
  exact (((hopcode.append (by decide)).append hname).append (by decide)).append hdata

lemma printed_cells (i : Instruction) : Printed (cells i) := by
  rw [cells_eq_columns]
  exact printed_columns ((printed_of_isAlphanum isAlphanum_of_mem_mnemonic).padRight 14)

lemma printed_wanted (i : Instruction) : Printed (wanted i) := by
  rw [wanted_eq_columns]
  exact (printed_columns (printed_of_isAlphanum isAlphanum_of_mem_mnemonic)).strippedEnd

lemma printed_shown (row : Row) : Printed row.shown := by
  obtain ⟨index,pairing⟩ := row
  cases pairing with
  | differs a e tolerated =>
    exact ((printed_cells a).append (by decide)).append (printed_wanted e)
  | same i | actualOnly i | expectedOnly i => exact printed_cells i

/-- A row without colour is its marker, its index and what it shows. -/
lemma toList_plain (row : Row) : (renderSpans false row.spans).toList =
    row.marker :: ' ' :: ((hexDigitsUpper 4 row.index).toList ++ ' ' :: row.shown.toList) := by
  obtain ⟨index,pairing⟩ := row
  cases pairing with
  | differs a e tolerated =>
    cases tolerated <;>
    simp [renderSpans, spans, cells, marked, Span.render, marker, shown]
  | same i | actualOnly i | expectedOnly i =>
    simp [renderSpans, spans, cells, Span.render, marker, shown]

lemma isWord_opcodeCell (i : Instruction) : IsWord (opcodeCell i).toList :=
  isWord_hexDigitsUpper 2 i.opcode.toNat

lemma trimEnd_shown_ne_nil (row : Row) : trimEnd row.shown.toList ≠ [] := by
  have hcells : ∀ i rest, trimEnd ((cells i).toList ++ rest) ≠ [] := by
    intro i rest
    have hcell := (numeral_hexDigitsUpper 2 i.opcode.toNat).wide
    simp only [cells, String.toList_append, List.append_assoc]
    rw [trimEnd_word_append (isWord_opcodeCell i)]
    exact List.append_ne_nil_of_left_ne_nil (List.ne_nil_of_length_pos (by
      change 0 < (hexDigitsUpper 2 i.opcode.toNat).toList.length
      omega)) _
  obtain ⟨index,pairing⟩ := row
  cases pairing with
  | differs a e tolerated =>
    have := hcells a (" | expected ".toList ++ (wanted e).toList)
    simpa only [shown, String.toList_append, List.append_assoc] using this
  | same i | actualOnly i | expectedOnly i =>
    have := hcells i []
    rwa [List.append_nil] at this

/-- Stripping a row's line takes nothing of what is in front. -/
lemma toList_line (row : Row) : (row.line false).toList =
    row.marker :: ' ' :: ((hexDigitsUpper 4 row.index).toList ++ ' ' :: trimEnd row.shown.toList) := by
  have hfront := trimEnd_append_of_ne_nil
    (row.marker :: ' ' :: ((hexDigitsUpper 4 row.index).toList ++ [' '])) row.trimEnd_shown_ne_nil
  rw [line, strippedEnd, String.toList_ofList, toList_plain]
  simpa using hfront

lemma shows_line (row : Row) : Shows row.marker row.index (row.line false) :=
  ⟨_,_,row.toList_line,numeral_hexDigitsUpper 4 row.index⟩

lemma printed_plain (row : Row) : Printed (renderSpans false row.spans) := by
  have hmarkers : Printed " ~!+-" := by decide
  have hindex : Printed (hexDigitsUpper 4 row.index) :=
    printed_of_isAlphanum isAlphanum_of_mem_hexDigitsUpper
  rw [Printed, toList_plain]
  simp only [List.forall_mem_cons, List.forall_mem_append]
  exact ⟨hmarkers _ row.marker_mem,by decide,hindex,by decide,row.printed_shown⟩

lemma printed_line (row : Row) : Printed (row.line false) := row.printed_plain.strippedEnd

/-- A row's line, with its end. -/
def endedLine (row : Row) : String := row.line false ++ "\n"

end Row

/-! ## The lines of all rows -/

lemma printed_legend : Printed (legend false) := by decide +kernel

lemma printed_rowLines (next : Nat) (rows : List Row) :
    ∀ l ∈ rowLines false next rows, Printed l := by
  induction rows generalizing next with
  | nil => simp [rowLines]
  | cons row rows ih =>
    have hlines := List.forall_mem_cons.mpr ⟨row.printed_line,ih (row.index + 1)⟩
    rw [rowLines]
    split
    · exact List.forall_mem_cons.mpr ⟨by decide,hlines⟩
    · exact hlines

/-- The lines below the legend. -/
def body (next : Nat) (rows : List Row) : List String :=
  (rowLines false next rows).map (· ++ "\n")

lemma body_cons (next : Nat) (row : Row) (rest : List Row) :
    body next (row :: rest) =
      if next < row.index then "...\n" :: row.endedLine :: body (row.index + 1) rest
      else row.endedLine :: body (row.index + 1) rest := by
  unfold body
  rw [rowLines]
  split <;> rfl

/-- A listing without colour is the legend and one line for each row or gap. -/
theorem linesOf_renderRows (rows : List Row) :
    linesOf (renderRows false rows) = (legend false ++ "\n") :: body 0 rows := by
  have hprinted := List.forall_mem_cons.mpr ⟨printed_legend,printed_rowLines 0 rows⟩
  have hended : ∀ l ∈ (legend false :: rowLines false 0 rows).map (· ++ "\n"), IsEnded l.toList :=
    List.forall_mem_map.mpr fun l hl => ⟨l.toList,(hprinted l hl).newline_not_mem,by simp⟩
  exact linesOf_join hended

/-- Rows with ascending indices have spaced lines. -/
theorem spaced_body {next : Nat} {rows : List Row}
    (hasc : (rows.map Row.index).Pairwise (· < ·)) (hlo : ∀ row ∈ rows, next ≤ row.index) :
    Spaced next (rows.map Row.index) (body next rows) := by
  induction rows generalizing next with
  | nil => exact .nil
  | cons row rest ih =>
    rw [List.map_cons, List.pairwise_cons] at hasc
    obtain ⟨hfirst,hrest⟩ := hasc
    have hnext : ∀ r ∈ rest, row.index + 1 ≤ r.index := fun r hr =>
      hfirst _ (List.mem_map_of_mem hr)
    have hshows := row.shows_line.append "\n"
    have hle : next ≤ row.index := hlo row List.mem_cons_self
    rw [body_cons, List.map_cons]
    split
    · next hgap => exact .gap hgap hshows (ih hrest hnext)
    · next hgap =>
      obtain rfl : next = row.index := by omega
      exact .adjacent hshows (ih hrest hnext)

/-- Without the dots, there is one line for each row. -/
lemma filter_body (next : Nat) (rows : List Row) :
    (body next rows).filter (fun l => l.toList.head? != some '.') = rows.map Row.endedLine := by
  induction rows generalizing next with
  | nil => rfl
  | cons row rest ih =>
    have hdots : row.marker ≠ '.' := fun h => absurd (h ▸ row.marker_mem) (by decide)
    have hkept : (row.endedLine.toList.head? != some '.') = true := by
      rw [Row.endedLine, (row.shows_line.append "\n").head?_eq]
      simpa using hdots
    rw [body_cons, List.map_cons, ← ih (row.index + 1)]
    split
    · rw [List.filter_cons_of_neg (by decide), List.filter_cons, if_pos hkept]
    · rw [List.filter_cons, if_pos hkept]

lemma starting_body {marker : Char} (hdots : marker ≠ '.') (next : Nat) (rows : List Row) :
    starting marker (body next rows) =
      (rows.filter fun row => row.marker == marker).map Row.endedLine := by
  have hrows : starting marker (rows.map Row.endedLine) =
      (rows.filter fun row => row.marker == marker).map Row.endedLine := by
    rw [starting, List.filter_map]
    refine congrArg _ (List.filter_congr fun row _ => ?_)
    simp only [Function.comp, Row.endedLine, (row.shows_line.append "\n").head?_eq]
    rfl
  rw [← hrows, ← filter_body next rows, starting, starting, List.filter_filter]
  refine List.filter_congr fun l _ => ?_
  cases hhead : l.toList.head? == some marker with
  | false => rfl
  | true =>
    rw [beq_iff_eq.mp hhead]
    simpa using hdots

/-- The lines with a marker are those of the rows with it; the legend and the dots have none. -/
theorem starting_linesOf {marker : Char} (hmarker : marker ≠ 'L' ∧ marker ≠ '.')
    (rows : List Row) :
    starting marker (linesOf (renderRows false rows)) =
      (rows.filter fun row => row.marker == marker).map Row.endedLine := by
  have hlegend : (legend false ++ "\n").toList.head? = some 'L' := by decide +kernel
  rw [linesOf_renderRows, ← starting_body hmarker.2 0 rows, starting, List.filter_cons_of_neg]
  · rfl
  · rw [hlegend]
    simpa using Ne.symm hmarker.1

end DeployCheck.Bytecode
