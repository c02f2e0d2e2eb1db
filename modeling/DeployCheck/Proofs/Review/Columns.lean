import DeployCheck.Proofs.Text.LineReading
import DeployCheck.Proofs.Text.Painted
import DeployCheck.Review.Table

/-! The columns of a review's table. They are as wide as their longest text in bytes, which is no
less than in characters, so that all lines have their separators at the same positions. Colour adds
escape sequences and nothing else. -/
namespace DeployCheck.Review

open Text

/-! ## Lines in columns -/

/-- Separators of three characters start at the given positions of a line. -/
def HasSeparators (separator : String) (positions : List Nat) (line : List Char) : Prop :=
  ∀ p ∈ positions, (line.drop p).take 3 = separator.toList

/-- What stands between separators of three characters that start at the given positions. -/
def columnsAt : Nat → List Nat → List Char → List (List Char)
  | start, [], line => [line.drop start]
  | start, p :: ps, line => (line.drop start).take (p - start) :: columnsAt (p + 3) ps line

/-- A cell with blanks behind it. -/
def IsPadded (cell : String) (column : List Char) : Prop :=
  ∃ k, column = cell.toList ++ List.replicate k ' '

/-- A line shows the cells of a row, padded between separators at the given positions. -/
structure InColumns (positions : List Nat) (cells : List String) (line : String) : Prop where
  separators : HasSeparators " | " positions line.toList
  padded : List.Forall₂ IsPadded cells (columnsAt 0 positions line.toList)

/-- A line of dashes crosses the columns at the given positions. -/
structure IsRule (positions : List Nat) (line : String) : Prop where
  separators : HasSeparators "-+-" positions line.toList
  dashes : ∀ column ∈ columnsAt 0 positions line.toList, ∀ c ∈ column, c = '-'

/-- Where separators start behind columns of the given widths. -/
def separatorStarts : Nat → List Nat → List Nat
  | _, [] => []
  | start, w :: ws => (start + w) :: separatorStarts (start + w + 3) ws

lemma length_separatorStarts (start : Nat) (widths : List Nat) :
    (separatorStarts start widths).length = widths.length := by
  induction widths generalizing start with
  | nil => rfl
  | cons w ws ih => rw [separatorStarts, List.length_cons, ih, List.length_cons]

/-- Separators follow one another with no overlap. -/
lemma isChain_separatorStarts (start : Nat) (widths : List Nat) :
    (separatorStarts start widths).IsChain (fun p q => p + 3 ≤ q) := by
  induction widths generalizing start with
  | nil => exact .nil
  | cons w ws ih =>
    cases ws with
    | nil => exact .singleton _
    | cons v ws => exact .cons_cons (Nat.le_add_right _ _) (ih _)

/-- Columns with a separator behind each, in front of a last one. -/
def joined (separator : List Char) (columns : List (List Char)) (last : List Char) : List Char :=
  columns.flatMap (· ++ separator) ++ last

lemma toList_intercalate_concat (separator : String) (columns : List String) (last : String) :
    (separator.intercalate (columns ++ [last])).toList =
      joined separator.toList (columns.map String.toList) last.toList := by
  rw [String.toList_intercalate]
  induction columns with
  | nil => simp [joined]
  | cons column columns ih =>
    obtain ⟨next,rest,hnext⟩ : ∃ next rest, (columns ++ [last]).map String.toList = next :: rest :=
      List.exists_cons_of_ne_nil (by simp)
    rw [hnext] at ih
    rw [List.cons_append, List.map_cons, hnext, List.intercalate_cons_cons, ih]
    simp [joined]

section Joined

variable {separator : String} (h : separator.toList.length = 3) (front column : List Char)
  (columns : List (List Char)) (last : List Char)

lemma append_joined_cons : front ++ joined separator.toList (column :: columns) last =
    (front ++ column ++ separator.toList) ++ joined separator.toList columns last := by
  simp [joined]

include h

lemma length_append_separator :
    (front ++ column ++ separator.toList).length = front.length + column.length + 3 := by
  rw [List.length_append, List.length_append, h]

lemma hasSeparators_joined :
    HasSeparators separator (separatorStarts front.length (columns.map List.length))
      (front ++ joined separator.toList columns last) := by
  induction columns generalizing front with
  | nil => exact List.forall_mem_nil _
  | cons column columns ih =>
    rw [append_joined_cons, List.map_cons, separatorStarts, ← length_append_separator h]
    refine List.forall_mem_cons.mpr ⟨?_,ih _⟩
    rw [← List.length_append, List.append_assoc (front ++ column), List.drop_left, ← h,
      List.take_left]

lemma columnsAt_joined :
    columnsAt front.length (separatorStarts front.length (columns.map List.length))
        (front ++ joined separator.toList columns last) = columns ++ [last] := by
  induction columns generalizing front with
  | nil => simp [columnsAt, separatorStarts, joined]
  | cons column columns ih =>
    have hfirst : ((front ++ column ++ separator.toList ++
        joined separator.toList columns last).drop front.length).take
          (front.length + column.length - front.length) = column := by
      rw [List.append_assoc, List.append_assoc, List.drop_left, Nat.add_sub_cancel_left,
        List.take_left]
    rw [append_joined_cons, List.map_cons, separatorStarts, columnsAt, hfirst,
      ← length_append_separator h, ih, List.cons_append]

/-- What is joined of columns is divided into them again. -/
theorem divided_joined :
    HasSeparators separator (separatorStarts 0 (columns.map List.length))
        (joined separator.toList columns last) ∧
      columnsAt 0 (separatorStarts 0 (columns.map List.length))
        (joined separator.toList columns last) = columns ++ [last] :=
  ⟨hasSeparators_joined h [] columns last,columnsAt_joined h [] columns last⟩

end Joined

/-! ## Widths -/

/-- A text has no more characters than bytes. -/
lemma length_le_utf8ByteSize (s : String) : s.length ≤ s.utf8ByteSize := by
  rw [← s.ofList_toList]
  induction s.toList with
  | nil => simp
  | cons c cs ih =>
    have hpos := c.utf8Size_pos
    rw [String.length_ofList] at ih ⊢
    rw [String.ofList_cons, String.utf8ByteSize_append, String.utf8ByteSize_singleton,
      List.length_cons]
    omega

lemma toList_padRight (w : Nat) (cell : String) :
    (padRight w cell).toList = cell.toList ++ List.replicate (w - cell.length) ' ' := by
  rw [padRight, String.toList_append, String.toList_ofList]

/-- Widths that the texts of a row fit in. -/
def Fits (widths : List Nat) (cells : List String) : Prop :=
  List.Forall₂ (fun w cell => cell.utf8ByteSize ≤ w) widths cells

/-- What fits does so in wider columns. -/
lemma Fits.widen {widths : List Nat} {cells other : List String} (h : Fits widths cells)
    (hother : other.length = widths.length) : Fits (widen widths other) cells := by
  induction h generalizing other with
  | nil => exact .nil
  | cons hw _ ih =>
    obtain ⟨cell,other,rfl⟩ := List.exists_cons_of_length_eq_add_one hother
    exact .cons (hw.trans (Nat.le_max_left _ _)) (ih (Nat.succ.inj hother))

/-- A row fits in the columns that it has widened. -/
lemma fits_widen {widths : List Nat} {cells : List String} (h : cells.length = widths.length) :
    Fits (widen widths cells) cells := by
  induction widths generalizing cells with
  | nil =>
    obtain rfl := List.eq_nil_of_length_eq_zero h
    exact .nil
  | cons w widths ih =>
    obtain ⟨cell,cells,rfl⟩ := List.exists_cons_of_length_eq_add_one h
    exact .cons (Nat.le_max_right _ _) (ih (Nat.succ.inj h))

/-- All rows fit once each of them has widened the columns, and so does what fitted before. -/
lemma fits_foldl_widen {rows : List (List String)} {widths : List Nat}
    (h : ∀ row ∈ rows, row.length = widths.length) :
    (∀ row ∈ rows, Fits (rows.foldl Review.widen widths) row) ∧
      ∀ cells, Fits widths cells → Fits (rows.foldl Review.widen widths) cells := by
  induction rows generalizing widths with
  | nil => simp
  | cons row rows ih =>
    obtain ⟨hrow,hrows⟩ := List.forall_mem_cons.mp h
    have hlength : (Review.widen widths row).length = widths.length := by
      simp [Review.widen, hrow]
    obtain ⟨hall,hkept⟩ := ih fun r hr => (hrows r hr).trans hlength.symm
    rw [List.foldl_cons, List.forall_mem_cons]
    exact ⟨⟨hkept _ (fits_widen hrow),hall⟩,fun cells hcells => hkept _ (hcells.widen hrow)⟩

lemma Fits.of_concat {widths : List Nat} {w : Nat} {cells : List String} {last : String}
    (h : Fits (widths ++ [w]) (cells ++ [last])) : Fits widths cells := by
  have hreverse := List.forall₂_reverse_iff.mpr h
  rw [List.reverse_append, List.reverse_append] at hreverse
  cases hreverse with
  | cons _ htail => exact List.forall₂_reverse_iff.mp htail

/-- Texts that fit are padded to the widths in characters. -/
lemma Fits.map_length_padRight {widths : List Nat} {cells : List String} (h : Fits widths cells) :
    ((List.zipWith padRight widths cells).map String.toList).map List.length = widths := by
  induction h with
  | nil => rfl
  | @cons w cell _ _ hw _ ih =>
    have hlength : cell.length ≤ w := (length_le_utf8ByteSize cell).trans hw
    rw [List.zipWith_cons_cons, List.map_cons, List.map_cons, ih, toList_padRight,
      List.length_append, String.length_toList, List.length_replicate, Nat.add_sub_cancel' hlength]

lemma Fits.isPadded {widths : List Nat} {cells : List String} (h : Fits widths cells) :
    List.Forall₂ IsPadded cells ((List.zipWith padRight widths cells).map String.toList) := by
  induction h with
  | nil => exact .nil
  | cons _ _ ih => exact .cons ⟨_,toList_padRight _ _⟩ ih

/-! ## Lines of the table -/

/-- A text has a last character, and it is no blank. -/
def EndsVisibly (s : String) : Prop := ∃ c ∈ s.toList.getLast?, isBlank c = false

/-- A row is its padded cells, but that the last one is not padded. -/
lemma toList_rowText {widths : List Nat} {cells : List String} {last : String} (w : Nat)
    (h : widths.length = cells.length) (hlast : EndsVisibly last) :
    (rowText (widths ++ [w]) (cells ++ [last])).toList =
      joined " | ".toList ((List.zipWith padRight widths cells).map String.toList) last.toList := by
  obtain ⟨c,hc,hvisible⟩ := hlast
  obtain ⟨front,hfront⟩ := List.getLast?_eq_some_iff.mp hc
  have hword : IsWord [c] := by simpa [IsWord] using hvisible
  have hblanks (k : Nat) : trimEnd (List.replicate k ' ') = [] := by
    refine trimEnd_blanks fun d hd => ?_
    rw [List.eq_of_mem_replicate hd]
    decide
  have htrim (more : List Char) (k : Nat) :
      trimEnd (more ++ (last.toList ++ List.replicate k ' ')) = more ++ last.toList := by
    rw [← List.append_assoc, trimEnd_append, if_pos (hblanks k), hfront, ← List.append_assoc,
      trimEnd_append_word _ hword (by simp)]
  rw [rowText, strippedEnd, String.toList_ofList, List.zipWith_append h, List.zipWith_cons_cons,
    List.zipWith_nil_left, toList_intercalate_concat, joined, joined, toList_padRight, htrim]

/-- A row that fits stands in the columns of the widths. -/
theorem inColumns_rowText {widths : List Nat} {w : Nat} {cells : List String} {last : String}
    (h : Fits (widths ++ [w]) (cells ++ [last])) (hlast : EndsVisibly last) :
    InColumns (separatorStarts 0 widths) (cells ++ [last])
      (rowText (widths ++ [w]) (cells ++ [last])) := by
  have hfits := h.of_concat
  have hpadded := hfits.isPadded
  have hwidths := hfits.map_length_padRight
  have hline := toList_rowText w hfits.length_eq hlast
  generalize (List.zipWith padRight widths cells).map String.toList = columns at *
  subst hwidths
  obtain ⟨hseparators,hcolumns⟩ :=
    divided_joined (by decide : " | ".toList.length = 3) columns last.toList
  rw [← hline] at hseparators hcolumns
  refine ⟨hseparators,hcolumns ▸ List.rel_append hpadded (.cons ⟨0,?_⟩ .nil)⟩
  rw [List.replicate_zero, List.append_nil]

lemma toList_dashes (n : Nat) : (dashes n).toList = List.replicate n '-' := by
  rw [dashes, String.toList_ofList]

lemma toList_ruleText (widths : List Nat) (w : Nat) :
    (ruleText (widths ++ [w])).toList =
      joined "-+-".toList (widths.map (List.replicate · '-')) (List.replicate w '-') := by
  rw [ruleText, List.map_append, List.map_singleton, toList_intercalate_concat, List.map_map,
    toList_dashes]
  exact congrArg (joined _ · _) (List.map_congr_left fun n _ => toList_dashes n)

theorem isRule_ruleText (widths : List Nat) (w : Nat) :
    IsRule (separatorStarts 0 widths) (ruleText (widths ++ [w])) := by
  have hwidths : (widths.map (List.replicate · '-')).map List.length = widths := by
    simp [Function.comp_def]
  obtain ⟨hseparators,hcolumns⟩ := divided_joined (by decide : "-+-".toList.length = 3)
    (widths.map (List.replicate · '-')) (List.replicate w '-')
  rw [← toList_ruleText, hwidths] at hseparators hcolumns
  refine ⟨hseparators,?_⟩
  rw [hcolumns, List.forall_mem_append, List.forall_mem_singleton, List.forall_mem_map]
  exact ⟨fun _ _ _ => List.eq_of_mem_replicate,fun _ => List.eq_of_mem_replicate⟩

/-! ## Plain texts -/

/-- A text has no line breaks and no escapes. -/
def IsPlain (cs : List Char) : Prop := ∀ c ∈ cs, c ≠ '\n' ∧ c ≠ '\x1b'

instance (cs : List Char) : Decidable (IsPlain cs) := List.decidableBAll _ cs

lemma IsPlain.append {cs ds : List Char} (hcs : IsPlain cs) (hds : IsPlain ds) :
    IsPlain (cs ++ ds) := List.forall_mem_append.mpr ⟨hcs,hds⟩

lemma isPlain_replicate {c : Char} (h : IsPlain [c]) (k : Nat) : IsPlain (List.replicate k c) := by
  intro d hd
  rw [List.eq_of_mem_replicate hd]
  exact h c (by simp)

lemma isPlain_toString (n : Nat) : IsPlain (toString n).toList := by
  intro c hc
  have hdigit : c.isDigit = true := isDigit_of_mem_toDigits c (by simpa using hc)
  constructor <;> rintro rfl <;> exact absurd hdigit (by decide)

lemma isPlain_joined {separator last : List Char} {columns : List (List Char)}
    (hseparator : IsPlain separator) (hcolumns : ∀ column ∈ columns, IsPlain column)
    (hlast : IsPlain last) : IsPlain (joined separator columns last) := by
  refine IsPlain.append (fun c hc => ?_) hlast
  obtain ⟨column,hcolumn,hc⟩ := List.mem_flatMap.mp hc
  exact (hcolumns column hcolumn).append hseparator c hc

lemma isPlain_of_isPadded {cells : List String} {columns : List (List Char)}
    (h : List.Forall₂ IsPadded cells columns) (hcells : ∀ cell ∈ cells, IsPlain cell.toList) :
    ∀ column ∈ columns, IsPlain column := by
  induction h with
  | nil => exact List.forall_mem_nil _
  | cons hpadded _ ih =>
    obtain ⟨hcell,hrest⟩ := List.forall_mem_cons.mp hcells
    obtain ⟨k,rfl⟩ := hpadded
    exact List.forall_mem_cons.mpr ⟨hcell.append (isPlain_replicate (by decide) k),ih hrest⟩

lemma isPlain_rowText {widths : List Nat} {w : Nat} {cells : List String} {last : String}
    (h : Fits (widths ++ [w]) (cells ++ [last])) (hlast : EndsVisibly last)
    (hcells : ∀ cell ∈ cells ++ [last], IsPlain cell.toList) :
    IsPlain (rowText (widths ++ [w]) (cells ++ [last])).toList := by
  rw [List.forall_mem_append, List.forall_mem_singleton] at hcells
  rw [toList_rowText w h.of_concat.length_eq hlast]
  exact isPlain_joined (by decide) (isPlain_of_isPadded h.of_concat.isPadded hcells.1) hcells.2

/-- A row that fits is a plain line in columns. -/
lemma row_in_columns {widths : List Nat} {w : Nat} {row cells : List String} {last : String}
    (hrow : row = cells ++ [last]) (h : Fits (widths ++ [w]) row) (hlast : EndsVisibly last)
    (hplain : ∀ cell ∈ row, IsPlain cell.toList) :
    InColumns (separatorStarts 0 widths) row (rowText (widths ++ [w]) row) ∧
      IsPlain (rowText (widths ++ [w]) row).toList := by
  subst hrow
  exact ⟨inColumns_rowText h hlast,isPlain_rowText h hlast hplain⟩

lemma isPlain_ruleText (widths : List Nat) (w : Nat) :
    IsPlain (ruleText (widths ++ [w])).toList := by
  rw [toList_ruleText]
  refine isPlain_joined (by decide) ?_ (isPlain_replicate (by decide) w)
  exact List.forall_mem_map.mpr fun v _ => isPlain_replicate (by decide) v

/-! ## The table -/

namespace FileReport

/-- The texts of a file are plain, and its report path ends in a character that can be seen. -/
structure IsListable (f : FileReport) : Prop where
  filename : IsPlain f.filename.toList
  origin : IsPlain f.origin.toList
  reportPath : IsPlain f.reportPath.toList
  endsVisibly : EndsVisibly f.reportPath

/-- The report path is the last cell. -/
lemma cells_eq (f : FileReport) :
    f.cells = [toString f.index, f.filename, if f.found then "true" else "false",
      toString f.changed, f.origin] ++ [f.reportPath] := rfl

lemma isPlain_cells {f : FileReport} (h : f.IsListable) :
    ∀ cell ∈ f.cells, IsPlain cell.toList := by
  have hfound : IsPlain (if f.found then "true" else "false").toList := by
    split <;> decide
  simp only [cells, List.forall_mem_cons]
  exact ⟨isPlain_toString _,h.filename,hfound,isPlain_toString _,h.origin,h.reportPath,
    List.forall_mem_nil _⟩

end FileReport

/-- The columns fit the header and every row, and there are six of them. -/
lemma exists_columnWidths (files : List FileReport) : ∃ widths w,
    columnWidths (files.map FileReport.cells) = widths ++ [w] ∧ widths.length = 5 ∧
    Fits (widths ++ [w]) header ∧ ∀ f ∈ files, Fits (widths ++ [w]) f.cells := by
  have hlengths : ∀ row ∈ files.map FileReport.cells,
      row.length = (header.map String.utf8ByteSize).length :=
    List.forall_mem_map.mpr fun _ _ => rfl
  obtain ⟨hrows,hkept⟩ := fits_foldl_widen hlengths
  have hheader : Fits (columnWidths (files.map FileReport.cells)) header :=
    hkept _ (List.forall₂_map_left_iff.mpr (List.forall₂_same.mpr fun _ _ => Nat.le_refl _))
  have hlength : (columnWidths (files.map FileReport.cells)).length = 6 := hheader.length_eq
  rcases List.eq_nil_or_concat (columnWidths (files.map FileReport.cells)) with
    hnil | ⟨widths,w,hwidths⟩
  · rw [hnil] at hlength
    cases hlength
  · rw [List.concat_eq_append] at hwidths
    rw [hwidths, List.length_append] at hlength
    refine ⟨widths,w,hwidths,Nat.succ.inj hlength,hwidths ▸ hheader,fun f hf => ?_⟩
    exact hwidths ▸ hrows _ (List.mem_map_of_mem hf)

/-- The header and every row stand in the same columns, and no line holds a line break or an
escape. -/
lemma exists_in_columns {files : List FileReport} (h : ∀ f ∈ files, f.IsListable) :
    ∃ widths w, columnWidths (files.map FileReport.cells) = widths ++ [w] ∧ widths.length = 5 ∧
      InColumns (separatorStarts 0 widths) header (rowText (widths ++ [w]) header) ∧
      (∀ f ∈ files, InColumns (separatorStarts 0 widths) f.cells
        (rowText (widths ++ [w]) f.cells)) ∧
      ∀ line ∈ tableLines files, IsPlain line.text.toList := by
  obtain ⟨widths,w,hwidths,hlength,hheader,hfits⟩ := exists_columnWidths files
  have hreport : header = ["#", "Filename", "Found", "Diffs", "Origin"] ++ ["Report"] := rfl
  obtain ⟨htop,htopPlain⟩ := row_in_columns hreport hheader ⟨'t',rfl,by decide⟩ (by decide)
  have hrow (f : FileReport) (hf : f ∈ files) := row_in_columns f.cells_eq (hfits f hf)
    (h f hf).endsVisibly (FileReport.isPlain_cells (h f hf))
  refine ⟨widths,w,hwidths,hlength,htop,fun f hf => (hrow f hf).1,?_⟩
  simp only [tableLines, hwidths, List.forall_mem_cons, List.forall_mem_map]
  exact ⟨htopPlain,isPlain_ruleText widths w,fun f hf => (hrow f hf).2⟩

/-- The lines of a table are its texts, and colour does not change what is shown. -/
theorem linesOf_table {files : List FileReport} (h : ∀ f ∈ files, f.IsListable) :
    linesOf (table false files) = ((tableLines files).map Span.text).map (· ++ "\n") ∧
      bare (table true files) = table false files := by
  obtain ⟨-,-,-,-,-,-,hplain⟩ := exists_in_columns h
  constructor
  · have hended : ∀ line ∈ (tableLines files).map (fun line => line.render false ++ "\n"),
        IsEnded line.toList := by
      refine List.forall_mem_map.mpr fun line hline => ⟨line.text.toList,?_,String.toList_append⟩
      exact fun hbreak => (hplain line hline _ hbreak).1 rfl
    rw [table, linesOf_join hended, List.map_map]
    rfl
  · refine bare_eq_of_paints (paints_lines fun line hline => ?_)
    exact fun hescape => (hplain line hline _ hescape).2 rfl

/-- All lines of a table have their separators at the same positions, in front of which the cells
of a row stand with blanks behind them. In colour the table shows the same text. -/
theorem table_in_columns {files : List FileReport} (h : ∀ f ∈ files, f.IsListable) :
    (∃ (positions : List Nat) (top rule : String) (rows : List String),
      positions.length = 5 ∧ positions.IsChain (fun p q => p + 3 ≤ q) ∧
      linesOf (table false files) = (top :: rule :: rows).map (· ++ "\n") ∧
      InColumns positions header top ∧ IsRule positions rule ∧
      List.Forall₂ (fun f row => InColumns positions f.cells row) files rows) ∧
    bare (table true files) = table false files := by
  obtain ⟨widths,w,hwidths,hlength,htop,hrows,-⟩ := exists_in_columns h
  obtain ⟨hlines,hbare⟩ := linesOf_table h
  refine ⟨⟨separatorStarts 0 widths,_,_,files.map fun f => rowText (widths ++ [w]) f.cells,?_,
    isChain_separatorStarts 0 widths,?_,htop,isRule_ruleText widths w,?_⟩,hbare⟩
  · rw [length_separatorStarts, hlength]
  · simpa [tableLines, hwidths, Function.comp_def] using hlines
  · exact List.forall₂_map_right_iff.mpr (List.forall₂_same.mpr hrows)

/-- A name that takes more bytes than characters above a file that was not found. -/
theorem table_in_columns_wide_name :
    let wide : FileReport := ⟨1,"é.sol","日本/é.sol",true,0,"日本","digest/é.sol.html"⟩
    let missing : FileReport := ⟨2,"T","a/T",false,3,"a","d/T.html"⟩
    (∀ f ∈ [wide,missing], f.IsListable) ∧
    (∃ positions : List Nat, positions.length = 5 ∧
      InColumns positions header "# | Filename | Found | Diffs | Origin | Report" ∧
      InColumns positions wide.cells "1 | é.sol    | true  | 0     | 日本     | digest/é.sol.html" ∧
      InColumns positions missing.cells "2 | T        | false | 3     | a      | d/T.html") ∧
    bare (table true [wide,missing]) = table false [wide,missing] := by
  intro wide missing
  have hlistable : ∀ f ∈ [wide,missing], f.IsListable := by
    simp only [List.forall_mem_cons]
    exact ⟨⟨by decide,by decide,by decide,⟨'l',by decide,by decide⟩⟩,
      ⟨by decide,by decide,by decide,⟨'l',by decide,by decide⟩⟩,List.forall_mem_nil _⟩
  have htexts : (tableLines [wide,missing]).map Span.text =
      ["# | Filename | Found | Diffs | Origin | Report",
        "--+----------+-------+-------+--------+-------------------",
        "1 | é.sol    | true  | 0     | 日本     | digest/é.sol.html",
        "2 | T        | false | 3     | a      | d/T.html"] := by
    decide +kernel
  have hprinted := (linesOf_table hlistable).1
  rw [htexts] at hprinted
  obtain ⟨⟨positions,top,rule,rows,hcount,-,hlines,htop,-,hrows⟩,hbare⟩ :=
    table_in_columns hlistable
  have hended : Function.Injective fun line : String => line ++ "\n" := by
    intro a b h
    have hlist := congrArg String.toList h
    simp only [String.toList_append, List.append_left_inj] at hlist
    exact String.toList_inj.mp hlist
  have hsame := List.map_injective_iff.mpr hended (hprinted.symm.trans hlines)
  simp only [List.cons.injEq] at hsame
  obtain ⟨rfl,rfl,rfl⟩ := hsame
  cases hrows with
  | cons hwide hrest =>
    cases hrest with
    | cons hmissing _ => exact ⟨hlistable,⟨positions,hcount,htop,hwide,hmissing⟩,hbare⟩

end DeployCheck.Review
