import DeployCheck.Proofs.LineDiff.Entities
import DeployCheck.Proofs.Text.Cuts
import DeployCheck.Proofs.Text.LineReading
import DeployCheck.Proofs.Text.Numerals
import Mathlib.Data.List.Forall2

/-! A page is a list of tags with the texts between them. The tags are those of its form whatever the
title and the diff are, and the lines of the diff are read back from their elements. -/
namespace DeployCheck.LineDiff.Page

/-! ## Tags -/

/-- A tag and the text up to the next one. -/
structure Tag where
  name : String
  text : String
deriving DecidableEq, Repr

namespace Tag

def written (t : Tag) : String := "<" ++ t.name ++ ">" ++ t.text

/-- Tag and text of a part that stands behind an opening bracket. -/
def ofPart (part : List Char) : Tag :=
  ⟨String.ofList (part.takeWhile (· != '>')), String.ofList ((part.dropWhile (· != '>')).drop 1)⟩

/-- Brackets of markup stand around the name alone. -/
structure IsClean (t : Tag) : Prop where
  no_open : '<' ∉ t.name.toList
  no_close : '>' ∉ t.name.toList
  no_open_behind : '<' ∉ t.text.toList

instance : DecidablePred IsClean := fun t =>
  decidable_of_iff ('<' ∉ t.name.toList ∧ '>' ∉ t.name.toList ∧ '<' ∉ t.text.toList)
    ⟨fun ⟨h,k,l⟩ => ⟨h,k,l⟩,fun ⟨h,k,l⟩ => ⟨h,k,l⟩⟩

lemma isClean_mk {name text : String} (hname : '<' ∉ name.toList ∧ '>' ∉ name.toList)
    (htext : '<' ∉ text.toList) : IsClean ⟨name, text⟩ := ⟨hname.1,hname.2,htext⟩

lemma toList_written (t : Tag) :
    t.written.toList = '<' :: (t.name.toList ++ '>' :: t.text.toList) := by
  simp [written]

lemma ofPart_written {t : Tag} (h : t.IsClean) :
    ofPart (t.name.toList ++ '>' :: t.text.toList) = t := by
  have hname : ∀ c ∈ t.name.toList, (c != '>') = true := by
    intro c hc
    simpa using fun heq : c = '>' => h.no_close (heq ▸ hc)
  unfold ofPart
  rw [List.takeWhile_append_of_pos hname, List.dropWhile_append_of_pos hname]
  simp

end Tag

/-- The tags of a page, in order. -/
def tags (page : String) : List Tag := ((Text.split '<' page.toList).drop 1).map Tag.ofPart

/-- Clean tags are those of the page that they form. -/
theorem tags_join {ts : List Tag} (h : ∀ t ∈ ts, t.IsClean) :
    tags (String.join (ts.map Tag.written)) = ts := by
  have hparts : (String.join (ts.map Tag.written)).toList =
      (ts.map fun t => t.name.toList ++ '>' :: t.text.toList).flatMap fun part => '<' :: part := by
    rw [String.toList_join, List.flatMap_map, List.flatMap_map]
    exact congrArg (List.flatMap · ts) (funext Tag.toList_written)
  have hfree : ∀ part ∈ ts.map fun t => t.name.toList ++ '>' :: t.text.toList, '<' ∉ part := by
    rw [List.forall_mem_map]
    intro t ht
    simp [(h t ht).no_open, (h t ht).no_open_behind]
  rw [tags, hparts, Text.split_flatMap hfree, List.drop_one, List.tail_cons, List.map_map]
  exact (List.map_congr_left fun t ht => Tag.ofPart_written (h t ht)).trans (List.map_id _)

/-- A tag that a line break follows. -/
def bare (name : String) : Tag := ⟨name, "\n"⟩

/-! ## In front of a diff -/

/-- The style sheet of a page. -/
def sheet : String :=
  "\nbody \x7b font-family: monospace; \x7d\n" ++
  ".add \x7b background: #aaffaa; \x7d\n.del \x7b background: #ffaaaa; \x7d\n" ++
  ".hunk \x7b color: #0066aa; \x7d\npre \x7b margin: 0; \x7d\n"

/-- The tags in front of a title. -/
def headTags : List Tag :=
  [bare "!DOCTYPE html", bare "html", bare "head", bare "meta charset=\"utf-8\""]

/-- The tags between a title and the heading that repeats it. -/
def middleTags : List Tag :=
  [bare "/title", ⟨"style", sheet⟩, bare "/style", bare "/head", bare "body"]

/-- How much a diff changes, in words. -/
def counts (stats : Stats) : String :=
  toString stats.added ++ " added, " ++ toString stats.removed ++ " removed, " ++
    toString stats.hunks ++ " hunks (repository &rarr; explorer)"

/-- The tags in front of a diff, with the escaped title. -/
def openingTags (title : String) (stats : Stats) : List Tag :=
  headTags ++ ⟨"title", title⟩ :: middleTags ++
    [⟨"h3", title⟩, bare "/h3", ⟨"p", counts stats⟩, bare "/p"]

/-- The names of the tags in front of a diff. -/
def openingNames : List String :=
  ["!DOCTYPE html", "html", "head", "meta charset=\"utf-8\"", "title", "/title", "style", "/style",
    "/head", "body", "h3", "/h3", "p", "/p"]

/-- What stands in front of a title. -/
def head : String := "<!DOCTYPE html>\n<html>\n<head>\n<meta charset=\"utf-8\">\n<title>"

/-- What stands between a title and its second place. -/
def middle : String :=
  "</title>\n" ++ ("<style>\nbody \x7b font-family: monospace; \x7d\n" ++
    (".add \x7b background: #aaffaa; \x7d\n.del \x7b background: #ffaaaa; \x7d\n" ++
      (".hunk \x7b color: #0066aa; \x7d\npre \x7b margin: 0; \x7d\n</style>\n</head>\n<body>\n" ++
        "<h3>")))

lemma head_eq : head = String.join (headTags.map Tag.written) ++ "<title>" := by
  simp only [head, headTags, bare, List.map_cons, List.map_nil, Tag.written, String.join_cons,
    String.join_nil, String.reduceAppend]

lemma middle_eq : middle = String.join (middleTags.map Tag.written) ++ "<h3>" := by
  unfold middle middleTags bare sheet
  simp only [List.map_cons, List.map_nil, Tag.written, String.join_cons, String.join_nil]
  simp only [String.reduceAppend]

lemma opening_parts (title : String) (stats : Stats) : opening title stats =
    head ++ escapeText title ++ middle ++ escapeText title ++ "</h3>\n<p>" ++ counts stats ++
      "</p>\n" := by
  have hfoot : " hunks (repository &rarr; explorer)</p>\n" =
      " hunks (repository &rarr; explorer)" ++ "</p>\n" := by
    simp only [String.reduceAppend]
  unfold opening head middle counts
  rw [hfoot]
  simp only [String.append_assoc, -String.reduceAppend]

lemma opening_eq (title : String) (stats : Stats) : opening title stats =
    String.join ((openingTags (escapeText title) stats).map Tag.written) := by
  have hheading : "</h3>\n<p>" = "</h3>\n" ++ "<p>" := by
    simp only [String.reduceAppend]
  rw [opening_parts, head_eq, middle_eq]
  unfold openingTags
  simp only [List.map_append, List.map_cons, List.map_nil, String.join_append, String.join_cons,
    String.join_nil]
  generalize String.join (headTags.map Tag.written) = lead
  generalize String.join (middleTags.map Tag.written) = centre
  simp only [Tag.written, bare, String.append_assoc, String.reduceAppend, String.append_empty]
  rw [hheading, String.append_assoc]

lemma no_open_sheet : '<' ∉ sheet.toList := by
  unfold sheet
  simp only [String.toList_append, List.mem_append, not_or, -String.reduceAppend]
  exact ⟨⟨by decide +kernel,by decide +kernel⟩,by decide +kernel⟩

lemma no_open_counts (stats : Stats) : '<' ∉ (counts stats).toList := by
  have hdigits : ∀ n : Nat, '<' ∉ (toString n).toList := by
    intro n hmem
    rw [Nat.toString_eq_ofList_toDigits, String.toList_ofList] at hmem
    exact absurd (Text.isDigit_of_mem_toDigits _ hmem) (by decide)
  unfold counts
  simp only [String.toList_append, List.mem_append, not_or, -String.reduceAppend]
  exact ⟨⟨⟨⟨⟨hdigits _,by decide +kernel⟩,hdigits _⟩,by decide +kernel⟩,hdigits _⟩,by decide +kernel⟩

lemma isClean_openingTags (title : String) (stats : Stats) :
    ∀ t ∈ openingTags (escapeText title) stats, t.IsClean := by
  have htitle : '<' ∉ (escapeText title).toList :=
    toList_escapeText title ▸ (isInert_escape title.toList).no_open
  have hmiddle : ∀ t ∈ middleTags, t.IsClean := by
    simp only [middleTags, List.forall_mem_cons]
    exact ⟨by decide +kernel,⟨by decide +kernel,by decide +kernel,no_open_sheet⟩,by decide +kernel⟩
  simp only [openingTags, List.forall_mem_append, List.forall_mem_cons]
  exact ⟨⟨by decide +kernel,Tag.isClean_mk (by decide) htitle,hmiddle⟩,
    Tag.isClean_mk (by decide) htitle,by decide +kernel,
    Tag.isClean_mk (by decide) (no_open_counts _),by decide +kernel⟩

/-! ## The lines of a diff -/

/-- The class of a line by its first character. -/
inductive HasClass : List Char → String → Prop
  | added (rest : List Char) : HasClass ('+' :: rest) "add"
  | removed (rest : List Char) : HasClass ('-' :: rest) "del"
  | header (rest : List Char) : HasClass ('@' :: rest) "hunk"
  | other {line : List Char} (h : ∀ c ∈ line.head?, c ≠ '+' ∧ c ≠ '-' ∧ c ≠ '@') :
    HasClass line "ctx"

lemma hasClass_lineClass (line : List Char) : HasClass line (lineClass line) := by
  unfold lineClass
  split
  case h_4 hadded hremoved hheader =>
    refine .other fun c hc => ?_
    obtain ⟨rest,rfl⟩ := List.head?_eq_some_iff.mp hc
    refine ⟨?_,?_,?_⟩ <;> rintro rfl
    exacts [hadded rest rfl,hremoved rest rfl,hheader rest rfl]
  all_goals constructor

/-- Class and content of an element show a line: the content means nothing but the line's text. -/
structure Shows (line : List Char) (e : String × String) : Prop where
  cls : HasClass line e.1
  inert : IsInert e.2.toList
  text : unescape e.2.toList = line

/-- Class and content of the element for a line. -/
def shown (line : List Char) : String × String := (lineClass line, String.ofList (escape line))

lemma shows_shown (line : List Char) : Shows line (shown line) where
  cls := hasClass_lineClass line
  inert := by simpa [shown] using isInert_escape line
  text := by simpa [shown] using unescape_escape line

/-- The tags of an element by its class and content. -/
def elementTags (e : String × String) : List Tag :=
  [⟨"pre class=\"" ++ e.1 ++ "\"", e.2⟩, bare "/pre"]

lemma element_eq (line : List Char) :
    element line = String.join ((elementTags (shown line)).map Tag.written) := by
  have hfront : "<pre class=\"" = "<" ++ "pre class=\"" := by
    simp only [String.reduceAppend]
  unfold element elementTags shown bare
  simp only [List.map_cons, List.map_nil, String.join_cons, String.join_nil, Tag.written,
    String.append_assoc, String.reduceAppend, String.append_empty]
  rw [hfront, String.append_assoc]

lemma isClean_elementTags (line : List Char) : ∀ t ∈ elementTags (shown line), t.IsClean := by
  have hclass : '<' ∉ (lineClass line).toList ∧ '>' ∉ (lineClass line).toList := by
    unfold lineClass
    split <;> decide
  have hname {c : Char} (hfront : c ∉ "pre class=\"".toList) (hclass : c ∉ (lineClass line).toList)
      (hback : c ∉ "\"".toList) : c ∉ ("pre class=\"" ++ (shown line).1 ++ "\"").toList := by
    rw [String.toList_append, String.toList_append, List.mem_append, List.mem_append]
    exact not_or.mpr ⟨not_or.mpr ⟨hfront,hclass⟩,hback⟩
  refine List.forall_mem_cons.mpr ⟨⟨hname (by decide) hclass.1 (by decide),
    hname (by decide) hclass.2 (by decide),(shows_shown line).inert.no_open⟩,?_⟩
  simp only [List.forall_mem_singleton]
  constructor <;> decide

/-- The lines of a text without their ends. -/
def lineTexts (s : String) : List (List Char) := (Text.lines s.toList).map Text.lineContent

/-- The tags of a diff: an element a line, or a paragraph in place of them. -/
def bodyTags (unified : String) : List Tag :=
  if unified = "" then [⟨"p", "No differences."⟩, bare "/p"]
  else (lineTexts unified).flatMap fun line => elementTags (shown line)

lemma body_eq (unified : String) :
    body unified = String.join ((bodyTags unified).map Tag.written) := by
  unfold body bodyTags
  split
  · decide +kernel
  · rw [lineTexts]
    induction Text.lines unified.toList with
    | nil => rfl
    | cons line lines ih =>
      rw [List.map_cons, String.join_cons, ih, element_eq, List.map_cons, List.flatMap_cons,
        List.map_append, String.join_append]

lemma isClean_bodyTags (unified : String) : ∀ t ∈ bodyTags unified, t.IsClean := by
  unfold bodyTags
  split
  · decide +kernel
  · intro t ht
    obtain ⟨line,-,hmem⟩ := List.mem_flatMap.mp ht
    exact isClean_elementTags line t hmem

/-! ## The page -/

def closingTags : List Tag := [bare "/body", bare "/html"]

/-- The tags that a page is meant to have. -/
def pageTags (title : String) (diff : Diff) : List Tag :=
  openingTags (escapeText title) diff.stats ++ bodyTags diff.unified ++ closingTags

theorem render_eq (title : String) (diff : Diff) :
    render title diff = String.join ((pageTags title diff).map Tag.written) := by
  have hclosing : closing = String.join (closingTags.map Tag.written) := by decide +kernel
  rw [render, opening_eq, body_eq, hclosing, pageTags, List.map_append, List.map_append,
    String.join_append, String.join_append]

/-- A page has the tags that are meant: no text in it adds to them. -/
theorem tags_render (title : String) (diff : Diff) :
    tags (render title diff) = pageTags title diff := by
  have hclosing : ∀ t ∈ closingTags, t.IsClean := by decide +kernel
  rw [render_eq]
  refine tags_join (List.forall_mem_append.mpr ⟨List.forall_mem_append.mpr ?_,hclosing⟩)
  exact ⟨isClean_openingTags _ _,isClean_bodyTags _⟩

/-- The lines that a page shows. -/
def shownLines (page : String) : List (List Char) :=
  ((tags page).filter fun t => Text.startsWith "pre " t.name).map fun t => unescape t.text.toList

lemma shownLines_elementTags (line : List Char) :
    ((elementTags (shown line)).filter fun t => Text.startsWith "pre " t.name).map
      (fun t => unescape t.text.toList) = [line] := by
  have hpre (cls : String) : Text.startsWith "pre " ("pre class=\"" ++ cls ++ "\"") = true := by
    simp [Text.startsWith, Text.after?]
  have hend : Text.startsWith "pre " "/pre" = false := by decide
  simp only [elementTags, bare, List.filter_cons, hpre, hend, if_true, Bool.false_eq_true,
    if_false, List.filter_nil, List.map_cons, List.map_nil, (shows_shown line).text]

/-- The lines of a diff are read back from its page. -/
theorem shownLines_render (title : String) (diff : Diff) :
    shownLines (render title diff) = lineTexts diff.unified := by
  have hopening : (openingTags (escapeText title) diff.stats).filter
      (fun t => Text.startsWith "pre " t.name) = [] := by
    have hnames : ∀ name ∈ openingNames, Text.startsWith "pre " name = false := by decide +kernel
    refine List.filter_eq_nil_iff.mpr fun t ht => ?_
    have hname : t.name ∈ openingNames :=
      List.mem_map_of_mem (f := Tag.name) ht
    simp [hnames t.name hname]
  have hclosing : closingTags.filter (fun t => Text.startsWith "pre " t.name) = [] := by
    decide +kernel
  rw [shownLines, tags_render, pageTags, List.filter_append, List.filter_append, hopening, hclosing,
    List.nil_append, List.append_nil]
  unfold bodyTags
  split
  · next hempty =>
    rw [hempty]
    decide +kernel
  · induction lineTexts diff.unified with
    | nil => rfl
    | cons line lines ih =>
      rw [List.flatMap_cons, List.filter_append, List.map_append, ih, shownLines_elementTags,
        List.singleton_append]

/-- Between texts that hold the escaped title and nothing else of what is shown, a page has one
element for each line of the diff, in order, or the paragraph that stands for none. No title and no
line changes which tags the page has, and its lines are read back from it. -/
theorem render_shows_lines (title : String) (diff : Diff) : ∃ lines elements,
    Text.HasLines diff.unified.toList lines ∧ List.Forall₂ Shows lines elements ∧
    render title diff =
      head ++ escapeText title ++ middle ++ escapeText title ++ "</h3>\n<p>" ++ counts diff.stats ++
        "</p>\n" ++
      (if diff.unified = "" then "<p>No differences.</p>\n"
        else String.join (elements.map fun e =>
          "<pre class=\"" ++ e.1 ++ "\">" ++ e.2 ++ "</pre>\n")) ++
      "</body>\n</html>\n" ∧
    IsInert (escapeText title).toList ∧ unescape (escapeText title).toList = title.toList ∧
    (tags (render title diff)).map Tag.name =
      openingNames ++
      (if diff.unified = "" then ["p", "/p"]
        else elements.flatMap fun e => ["pre class=\"" ++ e.1 ++ "\"", "/pre"]) ++
      ["/body", "/html"] ∧
    shownLines (render title diff) = lines := by
  refine ⟨lineTexts diff.unified,(lineTexts diff.unified).map shown,Text.hasLines_lines _,?_,?_,?_,?_,
    ?_,shownLines_render title diff⟩
  · exact List.forall₂_map_right_iff.mpr (List.forall₂_same.mpr fun line _ => shows_shown line)
  · rw [render, opening_parts, body, lineTexts, List.map_map, List.map_map]
    rfl
  · rw [toList_escapeText]
    exact isInert_escape title.toList
  · rw [toList_escapeText, unescape_escape]
  · rw [tags_render, pageTags, List.map_append, List.map_append, List.flatMap_map]
    unfold bodyTags
    split
    · rfl
    · rw [List.map_flatMap]
      rfl

end DeployCheck.LineDiff.Page
