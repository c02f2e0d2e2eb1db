import DeployCheck.Proofs.Files.Ways
import DeployCheck.Proofs.Repository.Sending
import DeployCheck.Proofs.Review.Texts
import Mathlib.Data.List.Nodup
import Mathlib.Data.Nat.Find

/-! The pages that a review leaves. A page is named for the last part of its file's path, so of all
files that share their last part only the last one keeps its page. -/
namespace DeployCheck.Review

open DeployCheck.Action DeployCheck.Session

/-- Where the page for a file name is written. -/
def pagePath (directory address filename : String) : String :=
  Path.join (pageDirectory directory address) (filename ++ ".html")

lemma isName_page {filename : String} (h : '/' ∉ filename.toList) :
    Path.IsName (filename ++ ".html") := by
  have hne : ∀ other : String, other.toList.length < 5 → filename ++ ".html" ≠ other := by
    rintro other hshort rfl
    rw [String.toList_append, List.length_append] at hshort
    exact absurd (Nat.lt_of_le_of_lt (Nat.le_add_left _ _) hshort) (by decide)
  refine ⟨?_,hne _ (by decide),hne _ (by decide),hne _ (by decide)⟩
  simpa using h

lemma pagePath_inj {directory address a b : String} (ha : '/' ∉ a.toList) (hb : '/' ∉ b.toList) :
    pagePath directory address a = pagePath directory address b ↔ a = b := by
  constructor
  · intro h
    have hnames := Path.join_left_injective (isName_page ha).slashless (isName_page hb).slashless h
    exact (String.append_left_inj _).mp hnames
  · rintro rfl
    rfl

/-- Writing a page keeps the pages under all other names. -/
lemma fileAt?_write_page {directory address a b page : String} {fs gs : Files}
    {kept : Blob × Bool} (ha : '/' ∉ a.toList) (hb : '/' ∉ b.toList) (hne : b ≠ a)
    (h : fs.write? (pagePath directory address a) page false = some gs)
    (hkept : fs.fileAt? (pagePath directory address b) = some kept) :
    gs.fileAt? (pagePath directory address b) = some kept :=
  Files.fileAt?_write_of_ne (isName_page ha) (isName_page hb)
    (fun heq => hne ((String.append_left_inj _).mp heq)) h hkept

/-- What a report does to the pages. It writes one under the last part of the file's path, and
pages under other names stay. -/
structure Writes (differ : LineDiff.Differ) (directory address : String) (before after : Files)
    (file : String × String) (row : FileReport × Option String) : Prop where
  filename : row.1.filename = Text.afterLast '/' file.1
  reportPath : row.1.reportPath = pagePath directory address row.1.filename
  own : after.fileAt? row.1.reportPath = some (.ofText (pageOf differ file row.2), false)
  others : ∀ {name kept}, '/' ∉ name.toList → name ≠ row.1.filename →
    before.fileAt? (pagePath directory address name) = some kept →
    after.fileAt? (pagePath directory address name) = some kept

section Run

variable {fetch : Fetch} {config : Config} {directory address : String} {w : World}

/-- A page that is written is found under its path. -/
lemma writePage_eq_ok {filename page reportPath : String} {st last : State}
    (h : (writePage directory address filename page).run w st = (.ok reportPath, last)) :
    ∃ made, st.files.makeDirectories? (pageDirectory directory address) = some made ∧
      made.write? (pagePath directory address filename) page false = some last.files ∧
      reportPath = pagePath directory address filename := by
  obtain ⟨_,made,hmake,hwrite⟩ := run_bind_eq_ok_iff.mp h
  obtain ⟨_,written,hput,hwrite⟩ := run_bind_eq_ok_iff.mp hwrite
  obtain ⟨directories,hdirectories,rfl⟩ := makeDirectories_eq_ok_iff.mp hmake
  obtain ⟨files,hfiles,rfl⟩ := writeFile_eq_ok_iff.mp hput
  cases hwrite
  exact ⟨directories,hdirectories,hfiles,rfl⟩

theorem writes_of_report {index : Nat} {path content : String} {copy : Option String}
    {file : FileReport} {st last : State}
    (h : (report directory address index path content copy).run w st = (.ok file, last)) :
    Writes w.differ directory address st.files last.files (path, content) (file, copy) := by
  obtain ⟨hwrite,-,hname,-⟩ := report_eq_ok h
  rw [← hname] at hwrite
  obtain ⟨made,hmake,hput,hreport⟩ := writePage_eq_ok hwrite
  refine ⟨hname,hreport,hreport ▸ Files.fileAt?_write hput,fun hother hne hkept => ?_⟩
  have hslashless : '/' ∉ file.filename.toList := hname ▸ Text.not_mem_afterLast '/' path
  exact fileAt?_write_page hslashless hother hne hput (Files.fileAt?_makeDirectories hmake hkept)

variable {count : Nat} {st last : State} {sources : List (String × String)}
  {rows : List (FileReport × Option String)}

/-- The names of the pages for files. -/
def pageNames (sources : List (String × String)) : List String :=
  sources.map fun s => Text.afterLast '/' s.1

lemma Reviews.map_filename
    (h : Reviews fetch config directory address w count st sources rows last) :
    rows.map (·.1.filename) = pageNames sources := by
  induction h with
  | done => rfl
  | next _ row _ ih => rw [List.map_cons, (writes_of_report row).filename, ih]; rfl

lemma Reviews.reportPath_eq
    (h : Reviews fetch config directory address w count st sources rows last) :
    ∀ row ∈ rows, row.1.reportPath = pagePath directory address row.1.filename := by
  induction h with
  | done => simp
  | next _ row _ ih => exact List.forall_mem_cons.mpr ⟨(writes_of_report row).reportPath,ih⟩

/-- A page stays as long as no file of its name is reviewed. -/
theorem Reviews.keeps_page
    (hfetch : ∀ repository path, (fetch repository path).Within State.KeepsFiles)
    (h : Reviews fetch config directory address w count st sources rows last) {name : String}
    {kept : Blob × Bool} (hname : '/' ∉ name.toList) (hnew : name ∉ rows.map (·.1.filename))
    (hkept : st.files.fileAt? (pagePath directory address name) = some kept) :
    last.files.fileAt? (pagePath directory address name) = some kept := by
  induction h with
  | done => exact hkept
  | next answer row _ ih =>
    obtain ⟨hother,hrest⟩ := not_or.mp (List.mem_cons.not.mp hnew)
    have hfetched := (hfetch _ _).of_run answer
    refine ih hrest ((writes_of_report row).others hname hother ?_)
    rwa [hfetched]

/-- A page stays if no later file has its name. -/
theorem Reviews.page_of_last
    (hfetch : ∀ repository path, (fetch repository path).Within State.KeepsFiles)
    (h : Reviews fetch config directory address w count st sources rows last) {i : Nat}
    {file : String × String} {row : FileReport × Option String} (hfile : sources[i]? = some file)
    (hrow : rows[i]? = some row)
    (hlast : ∀ j, i < j → (rows.map (·.1.filename))[j]? ≠ some row.1.filename) :
    last.files.fileAt? row.1.reportPath = some (.ofText (pageOf w.differ file row.2), false) := by
  induction h generalizing i with
  | done => simp at hfile
  | @next _ _ _ _ _ path content copy report _ rows _ written tail ih =>
    cases i with
    | zero =>
      obtain rfl : (path,content) = file := by simpa using hfile
      obtain rfl : (report,copy) = row := by simpa using hrow
      -- the report writes the page, and no later one has its name
      have hwrites := writes_of_report written
      rw [hwrites.reportPath]
      refine tail.keeps_page hfetch ?_ ?_ (hwrites.reportPath ▸ hwrites.own)
      · rw [hwrites.filename]
        exact Text.not_mem_afterLast '/' _
      · intro hmem
        obtain ⟨j,hj⟩ := List.mem_iff_getElem?.mp hmem
        exact hlast (j + 1) j.succ_pos (by simpa using hj)
    | succ i =>
      refine ih (by simpa using hfile) (by simpa using hrow) fun j hij => ?_
      have hnot := hlast (j + 1) (Nat.succ_lt_succ hij)
      rwa [List.map_cons, List.getElem?_cons_succ] at hnot

end Run

/-- Position `j` is the last one that holds what position `i` holds. -/
structure IsLastNamesake (names : List String) (i j : Nat) : Prop where
  le : i ≤ j
  same : names[j]? = names[i]?
  last : ∀ k, j < k → names[k]? ≠ names[i]?

lemma exists_isLastNamesake {names : List String} {i : Nat} (hi : i < names.length) :
    ∃ j, IsLastNamesake names i j := by
  let P := fun k : Nat => names[k]? = names[i]?
  refine ⟨Nat.findGreatest P names.length,Nat.le_findGreatest hi.le rfl,
    Nat.findGreatest_spec (P := P) hi.le rfl,fun k hk heq => ?_⟩
  rcases Nat.lt_or_ge names.length k with hout | hin
  · rw [List.getElem?_eq_none hout.le, List.getElem?_eq_getElem hi] at heq
    cases heq
  · exact Nat.findGreatest_is_greatest hk hin heq

lemma IsLastNamesake.eq_of_nodup {names : List String} {i j : Nat} (h : IsLastNamesake names i j)
    (hnames : names.Nodup) (hi : i < names.length) : j = i :=
  ((List.getElem?_inj hi hnames).mp h.same.symm).symm

lemma slashless_of_mem_pageNames {sources : List (String × String)} {name : String}
    (h : name ∈ pageNames sources) : '/' ∉ name.toList := by
  obtain ⟨s,-,rfl⟩ := List.mem_map.mp h
  exact Text.not_mem_afterLast '/' s.1

/-- The page at the path of a report is that for the last file of its name. -/
theorem Reviews.exists_page {fetch : Fetch} {config : Config} {directory address : String}
    {w : World} {count : Nat} {st last : State} {sources : List (String × String)}
    {rows : List (FileReport × Option String)}
    (hfetch : ∀ repository path, (fetch repository path).Within State.KeepsFiles)
    (h : Reviews fetch config directory address w count st sources rows last) {i : Nat}
    {row : FileReport × Option String} (hrow : rows[i]? = some row) :
    ∃ j file shown, IsLastNamesake (pageNames sources) i j ∧ sources[j]? = some file ∧
      rows[j]? = some shown ∧
      last.files.read? row.1.reportPath = some (pageOf w.differ file shown.2) := by
  have hlength := h.reports.length_eq
  have hname : (pageNames sources)[i]? = some row.1.filename := by
    rw [← h.map_filename, List.getElem?_map, hrow, Option.map_some]
  obtain ⟨j,hj⟩ := exists_isLastNamesake (List.getElem?_eq_some_iff.mp hname).1
  obtain ⟨shown,hshown,hsame⟩ : ∃ shown, rows[j]? = some shown ∧
      shown.1.filename = row.1.filename := by
    simpa [← h.map_filename, hrow] using hj.same
  obtain ⟨file,hfile⟩ : ∃ file, sources[j]? = some file := by
    obtain ⟨hbound,-⟩ := List.getElem?_eq_some_iff.mp hshown
    exact ⟨_,List.getElem?_eq_getElem (hlength ▸ hbound)⟩
  have hpage := h.page_of_last hfetch hfile hshown fun k hk => by
    rw [h.map_filename, hsame, ← hname]
    exact hj.last k hk
  have hpath : row.1.reportPath = shown.1.reportPath := by
    rw [h.reportPath_eq _ (List.mem_of_getElem? hrow),
      h.reportPath_eq _ (List.mem_of_getElem? hshown), hsame]
  exact ⟨j,file,shown,hj,hfile,hshown,Files.read?_of_fileAt? (hpath ▸ hpage)⟩

/-- The page for a file is still what it was when it was written. -/
def HasPage (differ : LineDiff.Differ) (fs : Files) (file : String × String)
    (row : FileReport × Option String) : Prop :=
  fs.read? row.1.reportPath = some (pageOf differ file row.2)

/-- Pages have paths of their own exactly if no two files share the last part of their paths, and
then every page is left as it was written. In general the path of a page holds the page for the last
file of that name. -/
theorem pages_of_review {fetch : Fetch} {config : Config} {directory address : String} {w : World}
    {st last : State} {sources : List (String × String)} {r : Review}
    (hfetch : ∀ repository path, (fetch repository path).Within State.KeepsFiles)
    (h : (Review.run fetch config directory address sources).run w st = (.ok r, last)) :
    ∃ rows, Reviews fetch config directory address w 0 st sources rows last ∧
      r.files = rows.map Prod.fst ∧
      ((r.files.map (·.reportPath)).Nodup ↔ (pageNames sources).Nodup) ∧
      ((pageNames sources).Nodup → List.Forall₂ (HasPage w.differ last.files) sources rows) ∧
      ∀ i row, rows[i]? = some row → ∃ j file shown, IsLastNamesake (pageNames sources) i j ∧
        sources[j]? = some file ∧ rows[j]? = some shown ∧
        last.files.read? row.1.reportPath = some (pageOf w.differ file shown.2) := by
  obtain ⟨rows,hrows,rfl⟩ := run_eq_ok_iff.mp h
  have hpaths : (rows.map Prod.fst).map (·.reportPath) =
      (pageNames sources).map (pagePath directory address) := by
    rw [← hrows.map_filename, List.map_map, List.map_map]
    exact List.map_congr_left hrows.reportPath_eq
  have hshown := fun i row (hrow : rows[i]? = some row) => hrows.exists_page hfetch hrow
  refine ⟨rows,hrows,rfl,?_,fun hnames => ?_,hshown⟩
  · rw [hpaths]
    refine ⟨List.Nodup.of_map _,List.Nodup.map_on fun a ha b hb hab => ?_⟩
    exact (pagePath_inj (slashless_of_mem_pageNames ha) (slashless_of_mem_pageNames hb)).mp hab
  · refine List.forall₂_iff_get.mpr ⟨hrows.reports.length_eq,fun i hfile hrow => ?_⟩
    obtain ⟨j,file,shown,hlast,hj,hjrow,hpage⟩ := hshown i _ (List.getElem?_eq_getElem hrow)
    obtain rfl := hlast.eq_of_nodup hnames (by simpa [pageNames] using hfile)
    rw [List.getElem?_eq_getElem hfile, Option.some.injEq] at hj
    rw [List.getElem?_eq_getElem hrow, Option.some.injEq] at hjrow
    rw [← hj, ← hjrow] at hpage
    exact hpage

/-! ## Two files -/

/-- A repository of two files. -/
def tokens (url : String) : Option Reply :=
  if url = "https://api.github.com/repos/acme/token/contents/a/T.sol?ref=abc" then
    some ⟨200, "a\n"⟩
  else if url = "https://api.github.com/repos/acme/token/contents/b/T.sol?ref=abc" then
    some ⟨200, "b\n"⟩
  else some ⟨404, ""⟩

/-- A review of files against that repository. -/
def reviewTokens (sources : List (String × String)) : Session Review :=
  Review.run (Repository.Client.fetch ⟨none⟩ false)
    (.bare [] ⟨"https://github.com/acme/token", "abc", ""⟩) "digest" "0x1" sources

/-- Files of different names keep their pages, found or not. -/
theorem pages_of_review_two_names : ∃ r last rows,
    (∀ repository path,
      (Repository.Client.fetch ⟨none⟩ false repository path).Within State.KeepsFiles) ∧
    (reviewTokens [("a/T.sol", "a\n"), ("b/U.sol", "c\n")]).run (.answering tokens) {} =
      (.ok r, last) ∧
    r.files = rows.map Prod.fst ∧ (r.files.map (·.reportPath)).Nodup ∧
    List.Forall₂ (HasPage .shortest last.files) [("a/T.sol", "a\n"), ("b/U.sol", "c\n")] rows := by
  have hfound : (((reviewTokens [("a/T.sol", "a\n"), ("b/U.sol", "c\n")]).run
      (.answering tokens) {}).1.toOption.map fun r => r.files.map (·.found)) =
        some [true, false] := by decide +kernel
  obtain ⟨r,last,hrun,-⟩ := exists_run_eq_ok hfound
  have hfetch := Repository.Client.keepsFiles_fetch ⟨none⟩ false
  obtain ⟨rows,-,hrows,hpaths,hpages,-⟩ := pages_of_review hfetch hrun
  have hnames : (pageNames [("a/T.sol", "a\n"), ("b/U.sol", "c\n")]).Nodup := by decide +kernel
  exact ⟨r,last,rows,hfetch,hrun,hrows,hpaths.mpr hnames,hpages hnames⟩

/-- The page for the first of two files of one name is lost. -/
theorem page_overwritten : ∃ r last,
    (reviewTokens [("a/T.sol", "a\n"), ("b/T.sol", "c\n")]).run (.answering tokens) {} =
      (.ok r, last) ∧
    r.files.map (·.reportPath) = ["digest/diffs/0x1/T.sol.html", "digest/diffs/0x1/T.sol.html"] ∧
    last.files.read? "digest/diffs/0x1/T.sol.html" =
      some (pageOf .shortest ("b/T.sol", "c\n") (some "b\n")) ∧
    pageOf .shortest ("a/T.sol", "a\n") (some "a\n") ≠
      pageOf .shortest ("b/T.sol", "c\n") (some "b\n") := by
  have hevaluated : (((reviewTokens [("a/T.sol", "a\n"), ("b/T.sol", "c\n")]).run
      (.answering tokens) {}).1.toOption.map fun r => r.files.map (·.reportPath)) =
        some ["digest/diffs/0x1/T.sol.html", "digest/diffs/0x1/T.sol.html"] ∧
      ((reviewTokens [("a/T.sol", "a\n"), ("b/T.sol", "c\n")]).run
        (.answering tokens) {}).2.files.fileAt? "digest/diffs/0x1/T.sol.html" =
        some (.ofText (pageOf .shortest ("b/T.sol", "c\n") (some "b\n")), false) := by
    decide +kernel
  obtain ⟨hpaths,hpage⟩ := hevaluated
  obtain ⟨r,last,hrun,hpaths⟩ := exists_run_eq_ok hpaths
  rw [hrun] at hpage
  exact ⟨r,last,hrun,hpaths,Files.read?_of_fileAt? hpage,by decide +kernel⟩

end DeployCheck.Review
