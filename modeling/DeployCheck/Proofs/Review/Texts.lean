import DeployCheck.Proofs.LineDiff.Hunks
import DeployCheck.Proofs.Requests
import DeployCheck.Proofs.Source.Paths
import DeployCheck.Review.Basic
import Mathlib.Data.List.Forall2

/-! The texts that a review hands on to the compiler: the repository's where a file was found, the
explorer's elsewhere. A clean review hands on the explorer's input as it is. -/
namespace DeployCheck.Review

open DeployCheck.Action

section Run

variable (fetch : Fetch) (config : Config) (directory address : String) (w : World)

/-- A review that gets through all files, `count` files being done before. Each file is fetched from
where its path leads and reported on; a row is the report with the repository's text. -/
inductive Reviews : Nat → State → List (String × String) → List (FileReport × Option String) →
    State → Prop
  | done (count : Nat) (st : State) : Reviews count st [] [] st
  | next {count : Nat} {st fetched reported last : State} {path content : String}
    {copy : Option String} {file : FileReport} {rest : List (String × String)}
    {rows : List (FileReport × Option String)}
    (answer : (fetch (Repository.locate config path).1 (Repository.locate config path).2).run w st =
      (.ok copy, fetched))
    (row : (report directory address (count + 1) path content copy).run w fetched =
      (.ok file, reported))
    (tail : Reviews (count + 1) reported rest rows last) :
    Reviews count st ((path, content) :: rest) ((file, copy) :: rows) last

/-- Adds the texts that rows have found to a map. -/
def gather : List (String × String) → List (FileReport × Option String) → List (String × String)
  | texts, [] => texts
  | texts, (file, some text) :: rows => gather (Json.insert file.path text texts) rows
  | texts, (_, none) :: rows => gather texts rows

/-- What a row says about a file of the explorer: whether it was found, and how many lines are
removed and added on the way that a differ finds from the repository's text, or the placeholder, to
the explorer's. -/
structure Reports (differ : LineDiff.Differ) (file : String × String)
    (row : FileReport × Option String) : Prop where
  path : row.1.path = file.1
  found : row.1.found = row.2.isSome
  changed : ∃ hunks, differ.Finds (row.2.getD placeholder) file.2 hunks ∧
    row.1.changed = LineDiff.changedLines hunks

/-- The page for a file of the explorer, given the repository's text if there is one. -/
def pageOf (differ : LineDiff.Differ) (file : String × String) (copy : Option String) : String :=
  LineDiff.Page.render file.1
    (LineDiff.compare contextLines (copy.getD placeholder) file.2 differ)

variable {fetch config directory address w}

/-- A report writes the page for its file, and says the rest without another step. -/
theorem report_eq_ok {index : Nat} {path content : String} {copy : Option String}
    {file : FileReport} {st last : State}
    (h : (report directory address index path content copy).run w st = (.ok file, last)) :
    (writePage directory address (Text.afterLast '/' path)
        (pageOf w.differ (path, content) copy)).run w st = (.ok file.reportPath, last) ∧
      file.index = index ∧ file.filename = Text.afterLast '/' path ∧
      Reports w.differ (path, content) (file, copy) := by
  rw [report, run_bind, run_read] at h
  obtain ⟨reportPath,next,hpage,hfile⟩ := run_bind_eq_ok_iff.mp h
  obtain ⟨rfl,rfl⟩ : _ = file ∧ next = last := by simpa using hfile
  exact ⟨hpage,rfl,rfl,rfl,rfl,_,w.differ.finds_between _ _,LineDiff.changed_compare _ _ _ _⟩

theorem Reviews.reports {count : Nat} {st last : State} {sources : List (String × String)}
    {rows : List (FileReport × Option String)}
    (h : Reviews fetch config directory address w count st sources rows last) :
    List.Forall₂ (Reports w.differ) sources rows := by
  induction h with
  | done => exact .nil
  | next _ row _ ih => exact .cons (report_eq_ok row).2.2.2 ih

/-- A review succeeds by getting through all files; it keeps the reports in order and the texts
found. -/
theorem extend_eq_ok_iff {r result : Review} {sources : List (String × String)} {st last : State} :
    (extend fetch config directory address r sources).run w st = (.ok result, last) ↔
      ∃ rows, Reviews fetch config directory address w r.files.length st sources rows last ∧
        result = ⟨r.files ++ rows.map Prod.fst, gather r.fetched rows⟩ := by
  induction sources generalizing r st with
  | nil =>
    constructor
    · intro h
      obtain ⟨rfl,rfl⟩ : r = result ∧ st = last := by simpa [extend] using h
      exact ⟨[],.done _ _,by simp [gather]⟩
    · rintro ⟨rows,hrows,rfl⟩
      cases hrows
      simp [extend, gather]
  | cons s rest ih =>
    obtain ⟨path,content⟩ := s
    simp only [extend, run_bind_eq_ok_iff, ih]
    constructor
    · rintro ⟨copy,fetched,hcopy,file,reported,hfile,rows,hrows,rfl⟩
      refine ⟨(file,copy) :: rows,.next hcopy hfile (by simpa using hrows),?_⟩
      have hpath := (report_eq_ok hfile).2.2.2.path
      cases copy <;> simp_all [gather]
    · rintro ⟨rows,hrows,rfl⟩
      cases hrows with
      | @next _ _ fetched reported _ _ _ copy file _ rows answer row tail =>
        refine ⟨copy,fetched,answer,file,reported,row,rows,by simpa using tail,?_⟩
        have hpath := (report_eq_ok row).2.2.2.path
        cases copy <;> simp_all [gather]

theorem run_eq_ok_iff {result : Review} {sources : List (String × String)} {st last : State} :
    (Review.run fetch config directory address sources).run w st = (.ok result, last) ↔
      ∃ rows, Reviews fetch config directory address w 0 st sources rows last ∧
        result = ⟨rows.map Prod.fst, gather [] rows⟩ :=
  extend_eq_ok_iff

end Run

section Gather

variable {texts : List (String × String)} {rows : List (FileReport × Option String)}

lemma lookup_gather_of_not_mem {key : String} (h : key ∉ rows.map fun row => row.1.path) :
    Json.lookup key (gather texts rows) = Json.lookup key texts := by
  induction rows generalizing texts with
  | nil => rfl
  | cons row rows ih =>
    obtain ⟨file,copy⟩ := row
    obtain ⟨hne,hrest⟩ := not_or.mp (List.mem_cons.not.mp h)
    cases copy with
    | none => exact ih hrest
    | some text => exact (ih hrest).trans (Json.lookup_insert_of_ne hne _ _)

/-- Among rows of different paths, each finds its own text. -/
theorem lookup_gather (hpaths : (rows.map fun row => row.1.path).Nodup)
    (hnew : ∀ row ∈ rows, Json.lookup row.1.path texts = none) {row : FileReport × Option String}
    (hrow : row ∈ rows) : Json.lookup row.1.path (gather texts rows) = row.2 := by
  induction rows generalizing texts with
  | nil => simp at hrow
  | cons first rows ih =>
    obtain ⟨file,copy⟩ := first
    obtain ⟨hfirst,hrest⟩ := List.nodup_cons.mp hpaths
    rw [List.forall_mem_cons] at hnew
    rcases List.mem_cons.mp hrow with rfl | hlater
    · cases copy with
      | none => exact (lookup_gather_of_not_mem hfirst).trans hnew.1
      | some text => exact (lookup_gather_of_not_mem hfirst).trans (Json.lookup_insert _ _ _)
    · cases copy with
      | none => exact ih hrest hnew.2 hlater
      | some text =>
        refine ih hrest (fun other hother => ?_) hlater
        have hne : other.1.path ≠ file.path := fun heq =>
          hfirst (List.mem_map.mpr ⟨other,hother,heq⟩)
        exact (Json.lookup_insert_of_ne hne _ _).trans (hnew.2 other hother)

end Gather

/-- What a row makes of a file: the repository's text where it was found. -/
def chosen (file : String × String) (row : FileReport × Option String) : String × String :=
  (file.1, if row.1.found then row.2.getD "" else file.2)

section Rows

variable {differ : LineDiff.Differ} {sources : List (String × String)}
  {rows : List (FileReport × Option String)} (h : List.Forall₂ (Reports differ) sources rows)

include h

lemma found_of_reports :
    ∀ row ∈ rows, row.1.found = row.2.isSome := by
  induction h with
  | nil => simp
  | cons hhead _ ih => exact List.forall_mem_cons.mpr ⟨hhead.found,ih⟩

lemma map_path_of_reports :
    rows.map (fun row => row.1.path) = sources.map Prod.fst := by
  induction h with
  | nil => rfl
  | cons hhead _ ih => simp [hhead.path, ih]

lemma map_chosen {texts : List (String × String)}
    (htexts : ∀ row ∈ rows, Json.lookup row.1.path texts = row.2) :
    sources.map (fun s => (s.1, (Json.lookup s.1 texts).getD s.2)) =
      List.zipWith chosen sources rows := by
  induction h with
  | nil => rfl
  | @cons s row sources rows hhead _ ih =>
    rw [List.forall_mem_cons] at htexts
    rw [List.map_cons, List.zipWith_cons_cons, ih htexts.2, ← hhead.path, htexts.1, chosen,
      hhead.found, hhead.path]
    cases row.2 <;> rfl

/-- Where a file is found without a changed line, the repository's text is the explorer's. -/
lemma zipWith_chosen_of_clean
    (hclean : ∀ row ∈ rows, row.1.isIdentical = true) :
    List.zipWith chosen sources rows = sources := by
  induction h with
  | nil => rfl
  | @cons s row sources rows hhead _ ih =>
    rw [List.forall_mem_cons] at hclean
    obtain ⟨hfound,hsame⟩ : row.1.found = true ∧ row.1.changed = 0 := by
      simpa [FileReport.isIdentical] using hclean.1
    obtain ⟨text,htext⟩ := Option.isSome_iff_exists.mp (hhead.found ▸ hfound)
    obtain ⟨hunks,hfinds,hchanged⟩ := hhead.changed
    rw [htext, Option.getD_some] at hfinds
    have := hfinds.changedLines_eq_zero_iff.mp (hchanged.symm.trans hsame)
    rw [List.zipWith_cons_cons, ih hclean.2, chosen, hfound, htext]
    simp [this]

end Rows

/-- After a review, compiling takes the repository's text of every file that was found and the
explorer's text of any other, in the explorer's order and with its settings. After a clean review
that is the explorer's input itself. Paths do not repeat, as in every source that an explorer
reports. -/
theorem withTexts_review {fetch : Fetch} {config : Config} {directory address : String}
    (source : VerifiedSource) {w : World} {st last : State} {r : Review}
    (hpaths : source.input.NamesFilesOnce)
    (h : (Review.run fetch config directory address source.input.sources).run w st =
      (.ok r, last)) :
    ∃ rows, Reviews fetch config directory address w 0 st source.input.sources rows last ∧
      r.files = rows.map Prod.fst ∧ (∀ row ∈ rows, row.1.found = row.2.isSome) ∧
      (source.input.withTexts r.fetched).language = source.input.language ∧
      (source.input.withTexts r.fetched).settings = source.input.settings ∧
      (source.input.withTexts r.fetched).sources.map Prod.fst = source.input.sources.map Prod.fst ∧
      (source.input.withTexts r.fetched).sources =
        List.zipWith chosen source.input.sources rows ∧
      (isClean r.files = true → source.input.withTexts r.fetched = source.input) := by
  obtain ⟨rows,hrows,rfl⟩ := run_eq_ok_iff.mp h
  have hreports := hrows.reports
  have hsources : (source.input.withTexts (gather [] rows)).sources =
      List.zipWith chosen source.input.sources rows := by
    refine map_chosen hreports fun row hrow => lookup_gather ?_ (fun _ _ => rfl) hrow
    rwa [map_path_of_reports hreports]
  refine ⟨rows,hrows,rfl,found_of_reports hreports,rfl,rfl,?_,hsources,?_⟩
  · simp [CompilerInput.withTexts]
  · intro hclean
    have hrow : ∀ row ∈ rows, row.1.isIdentical = true := by simpa [isClean] using hclean
    rw [zipWith_chosen_of_clean hreports hrow] at hsources
    exact congrArg (fun sources => { source.input with sources }) hsources

/-- Of two files, the repository holds one. -/
theorem withTexts_review_missing_file : ∃ r last rows,
    (run (fun _ path => pure (if path = "A.sol" then some "a\n" else none))
      (.bare [] ⟨"", "", ""⟩) "digest" "0x1" [("A.sol", "a\r\n"), ("B.sol", "b\n")]).run
        (.answering fun _ => none) {} = (.ok r, last) ∧
      r.files.map (·.found) = [true, false] ∧ r.files = rows.map Prod.fst ∧
      (CompilerInput.withTexts ⟨"Solidity", [("A.sol", "a\r\n"), ("B.sol", "b\n")], .null⟩
        r.fetched).sources =
          List.zipWith chosen [("A.sol", "a\r\n"), ("B.sol", "b\n")] rows := by
  have hfiles : ((run (fun _ path => pure (if path = "A.sol" then some "a\n" else none))
      (.bare [] ⟨"", "", ""⟩) "digest" "0x1" [("A.sol", "a\r\n"), ("B.sol", "b\n")]).run
        (.answering fun _ => none) {}).1.toOption.map (fun r => r.files.map (·.found)) =
          some [true, false] := by decide +kernel
  rcases hrun : Action.run _ _ _ with ⟨e | r,last⟩
  · simp [hrun, Except.toOption] at hfiles
  · obtain ⟨rows,-,hrows,-,-,-,-,hsources,-⟩ :=
      withTexts_review ⟨"C", "", "Solidity", _, .null⟩ (by simp [CompilerInput.NamesFilesOnce]) hrun
    exact ⟨r,last,rows,rfl,by simpa [hrun, Except.toOption] using hfiles,hrows,hsources⟩

end DeployCheck.Review
