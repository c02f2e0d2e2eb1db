import DeployCheck.Proofs.Json.Maps
import DeployCheck.Proofs.Logs
import DeployCheck.Proofs.Repository.Dependencies
import DeployCheck.Proofs.Review.Texts

/-! The rows of a review. Every file of the explorer is fetched once, in order, from a repository
that the order of the dependencies has no part in, and gets one row; the first fetch that fails ends
the review. -/
namespace DeployCheck

/-- The requests are those sent before. -/
def State.KeepsRequests (st last : State) : Prop := last.requests = st.requests

instance : Std.Refl State.KeepsRequests := ⟨fun _ => rfl⟩

instance : IsTrans State State.KeepsRequests := ⟨fun _ _ _ h k => k.trans h⟩

/-! ## The order of dependencies -/

namespace Repository

variable {α : Type} {ds es : List (String × α)}

/-- The longest name among entries does not depend on their order. -/
lemma IsLongest.perm {test : String → Prop} {result : Option (String × α)} (h : ds.Perm es)
    (hresult : IsLongest test ds result) : IsLongest test es result := by
  cases result with
  | none => exact fun d hd => hresult d (h.mem_iff.mpr hd)
  | some best =>
    obtain ⟨hmem,htest,hmax⟩ := hresult
    exact ⟨h.mem_iff.mp hmem,htest,fun d hd => hmax d (h.mem_iff.mpr hd)⟩

/-- Which dependency a path belongs to does not depend on their order in the map. -/
theorem dependencyOf_perm (h : ds.Perm es) (hkeys : (es.map Prod.fst).Nodup) (path : String) :
    dependencyOf path ds = dependencyOf path es :=
  ((isLongest_dependencyOf path ds).perm h).unique (fun _ => id) hkeys
    (isLongest_dependencyOf path es)

end Repository

namespace Review

open DeployCheck.Action

variable {fetch : Fetch} {config : Config} {directory address : String} {w : World}

/-- Where the repository's copy of a file is looked for. -/
def place (config : Config) (file : String × String) : RepositoryRef × String :=
  Repository.locate config file.1

/-- A review depends on the configuration by the places of files alone. -/
lemma extend_congr {other : Config}
    (h : ∀ path, Repository.locate other path = Repository.locate config path) (r : Review)
    (sources : List (String × String)) : extend fetch other directory address r sources =
      extend fetch config directory address r sources := by
  induction sources generalizing r with
  | nil => rfl
  | cons file rest ih =>
    obtain ⟨path,content⟩ := file
    simp only [extend, h, ih]

/-- Other orders of the same dependencies lead to the same review. -/
theorem run_perm {dependencies : List (String × RepositoryRef)}
    (h : dependencies.Perm config.dependencies) (hkeys : (config.dependencies.map Prod.fst).Nodup)
    (sources : List (String × String)) :
    Review.run fetch { config with dependencies } directory address sources =
      Review.run fetch config directory address sources := by
  refine extend_congr (fun path => ?_) _ sources
  unfold Repository.locate
  rw [Repository.dependencyOf_perm h hkeys]

/-! ## Rows -/

variable {count : Nat} {st last : State} {sources : List (String × String)}
  {rows : List (FileReport × Option String)}

/-- Rows are numbered in order. -/
theorem Reviews.map_index
    (h : Reviews fetch config directory address w count st sources rows last) :
    rows.map (·.1.index) = List.range' (count + 1) sources.length := by
  induction h with
  | done => rfl
  | next _ row _ ih =>
    rw [List.map_cons, (report_eq_ok row).2.1, ih, List.length_cons, List.range'_succ]

/-- The text that a row has found, under its path. -/
def found? (row : FileReport × Option String) : Option (String × String) :=
  row.2.map fun text => (row.1.path, text)

/-- Where no path repeats, the map of texts lists what the rows have found. -/
theorem gather_eq {texts : List (String × String)} (hpaths : (rows.map fun row => row.1.path).Nodup)
    (hnew : ∀ row ∈ rows, row.1.path ∉ texts.map Prod.fst) :
    gather texts rows = texts ++ rows.filterMap found? := by
  induction rows generalizing texts with
  | nil => simp [gather]
  | cons row rows ih =>
    obtain ⟨file,copy⟩ := row
    obtain ⟨hfirst,hrest⟩ := List.nodup_cons.mp hpaths
    obtain ⟨hfile,hlater⟩ := List.forall_mem_cons.mp hnew
    cases copy with
    | none =>
      rw [gather, ih hrest hlater, List.filterMap_cons_none rfl]
    | some text =>
      have hgrown : ∀ row ∈ rows, row.1.path ∉ (texts ++ [(file.path,text)]).map Prod.fst := by
        intro row hrow
        have hne : row.1.path ≠ file.path := fun heq =>
          hfirst (List.mem_map.mpr ⟨row,hrow,heq⟩)
        simpa [hne] using hlater row hrow
      have hfound : found? (file, some text) = some (file.path, text) := rfl
      rw [gather, Json.insert_of_not_mem hfile, ih hrest hgrown, List.filterMap_cons_some hfound,
        List.append_assoc, List.singleton_append]

/-! ## Failures -/

/-- A file, `count` files being done before, ends a review: it is not fetched, or not reported on. -/
inductive Breaks (fetch : Fetch) (config : Config) (directory address : String) (w : World)
    (count : Nat) (st : State) (file : String × String) : Failure → State → Prop
  | fetching {e : Failure} {last : State}
    (answer : (fetch (place config file).1 (place config file).2).run w st = (.error e, last)) :
    Breaks fetch config directory address w count st file e last
  | reporting {copy : Option String} {fetched last : State} {e : Failure}
    (answer : (fetch (place config file).1 (place config file).2).run w st = (.ok copy, fetched))
    (row : (report directory address (count + 1) file.1 file.2 copy).run w fetched =
      (.error e, last)) :
    Breaks fetch config directory address w count st file e last

/-- A review fails at the first file that is not fetched or not reported on, in the state that this
leaves. -/
theorem extend_eq_error_iff {r : Review} {e : Failure} :
    (extend fetch config directory address r sources).run w st = (.error e, last) ↔
      ∃ done file rest rows mid, sources = done ++ file :: rest ∧
        Reviews fetch config directory address w r.files.length st done rows mid ∧
        Breaks fetch config directory address w (r.files.length + done.length) mid file e last := by
  induction sources generalizing r st with
  | nil => simp [extend]
  | cons s rest ih =>
    obtain ⟨path,content⟩ := s
    have hcount (file : FileReport) (done : List (String × String)) :
        (r.files ++ [file]).length + done.length =
          r.files.length + ((path, content) :: done).length := by
      simp only [List.length_append, List.length_cons, List.length_nil]
      omega
    simp only [extend, run_bind_eq_error_iff, ih]
    constructor
    · rintro (hfetch | ⟨copy,fetched,hcopy,hreport | ⟨file,reported,hfile,done,next,later,rows,mid,
        rfl,hrows,hbreaks⟩⟩)
      · exact ⟨[],(path,content),rest,[],st,rfl,.done _ _,.fetching hfetch⟩
      · exact ⟨[],(path,content),rest,[],st,rfl,.done _ _,.reporting hcopy hreport⟩
      · rw [List.length_append, List.length_singleton] at hrows
        exact ⟨(path,content) :: done,next,later,(file,copy) :: rows,mid,rfl,
          .next hcopy hfile hrows,hcount file done ▸ hbreaks⟩
    · rintro ⟨done,next,later,rows,mid,hsources,hrows,hbreaks⟩
      cases hrows with
      | done =>
        obtain ⟨rfl,rfl⟩ := List.cons.inj hsources
        cases hbreaks with
        | fetching answer => exact .inl answer
        | reporting answer row => exact .inr ⟨_,_,answer,.inl row⟩
      | @next _ _ _ _ _ _ _ _ file done rows answer row tail =>
        rw [List.cons_append, List.cons.injEq, Prod.mk.injEq] at hsources
        obtain ⟨⟨rfl,rfl⟩,rfl⟩ := hsources
        refine .inr ⟨_,_,answer,.inr ⟨_,_,row,done,next,later,rows,mid,rfl,?_,?_⟩⟩
        · rwa [List.length_append, List.length_singleton]
        · exact (hcount file done).symm ▸ hbreaks

theorem run_eq_error_iff {e : Failure} :
    (Review.run fetch config directory address sources).run w st = (.error e, last) ↔
      ∃ done file rest rows mid, sources = done ++ file :: rest ∧
        Reviews fetch config directory address w 0 st done rows mid ∧
        Breaks fetch config directory address w done.length mid file e last := by
  rw [Review.run, extend_eq_error_iff]
  simp only [List.length_nil, Nat.zero_add]

/-! ## Fetches -/

/-- A host that notes one request for each fetch, whatever it answers. -/
def Notes (fetch : Fetch) (note : RepositoryRef × String → Request) : Prop :=
  ∀ repository path, (fetch repository path).Within fun st last =>
    last.requests = st.requests ++ [note (repository, path)]

/-- A report changes files and nothing else. -/
theorem within_report {R : State → State → Prop} [Std.Refl R] [IsTrans State R]
    (h : ∀ st fs, R st { st with files := fs }) (directory address : String) (index : Nat)
    (path content : String) (copy : Option String) :
    (report directory address index path content copy).Within R := by
  apply Within.bind
  · exact within_read
  · intro w
    apply Within.bind
    · apply (Session.within_makeDirectories h _).bind
      intro _
      exact (Session.within_writeFile h _ _ _).bind fun _ => within_pure _
    · intro reportPath
      exact within_pure _

/-- The requests of a review are those for its files, one for each and in order. -/
theorem Reviews.requests {note : RepositoryRef × String → Request} (hnotes : Notes fetch note)
    (h : Reviews fetch config directory address w count st sources rows last) :
    last.requests = st.requests ++ sources.map fun file => note (place config file) := by
  induction h with
  | done => simp
  | @next count st fetched reported last path content copy file rest rows answer row _ ih =>
    have hreported : State.KeepsRequests fetched reported :=
      (within_report (fun _ _ => rfl) _ _ _ _ _ _).of_run row
    have hfetched := (hnotes _ _).of_run answer
    rw [ih, hreported, hfetched, List.append_assoc, List.singleton_append, List.map_cons, place]

/-- A fetch fails once the files before it have been reviewed. -/
inductive FetchFails (fetch : Fetch) (config : Config) (directory address : String) (w : World)
    (st : State) (sources done : List (String × String)) (file : String × String) (e : Failure)
    (last : State) : Prop
  | intro {rest : List (String × String)} {rows : List (FileReport × Option String)} {mid : State}
    (split : sources = done ++ file :: rest)
    (reviewed : Reviews fetch config directory address w 0 st done rows mid)
    (answer : (fetch (place config file).1 (place config file).2).run w mid = (.error e, last))

/-- A review has one row for each file of the explorer, in order, and the texts of those found. It
fetches each file once and in order, as a host that notes its fetches shows, and the order of the
dependencies has no part in any of this. A fetch that fails ends the review with its error, and no
later file is fetched. -/
theorem rows_of_run (hpaths : (sources.map Prod.fst).Nodup)
    (hkeys : (config.dependencies.map Prod.fst).Nodup) :
    (∀ r last, (Review.run fetch config directory address sources).run w st = (.ok r, last) →
      ∃ rows, Reviews fetch config directory address w 0 st sources rows last ∧
        r.files = rows.map Prod.fst ∧
        r.files.map (·.index) = List.range' 1 sources.length ∧
        List.Forall₂ (Reports w.differ) sources rows ∧ r.fetched = rows.filterMap found?) ∧
    (∀ dependencies, dependencies.Perm config.dependencies →
      Review.run fetch { config with dependencies } directory address sources =
        Review.run fetch config directory address sources) ∧
    (∀ done file e last,
      FetchFails fetch config directory address w st sources done file e last →
        (Review.run fetch config directory address sources).run w st = (.error e, last)) ∧
    ∀ note, Notes fetch note →
      (∀ r last, (Review.run fetch config directory address sources).run w st = (.ok r, last) →
        last.requests = st.requests ++ sources.map fun file => note (place config file)) ∧
      ∀ done file e last,
        FetchFails fetch config directory address w st sources done file e last →
          last.requests = st.requests ++ (done ++ [file]).map fun file => note (place config file) := by
  refine ⟨fun r last h => ?_,fun dependencies h => run_perm h hkeys sources,?_,
    fun note hnotes => ⟨fun r last h => ?_,?_⟩⟩
  · obtain ⟨rows,hrows,rfl⟩ := run_eq_ok_iff.mp h
    have hindex := hrows.map_index
    have hrow_paths : (rows.map fun row => row.1.path).Nodup := by
      rwa [map_path_of_reports hrows.reports]
    have hfetched : gather [] rows = [] ++ rows.filterMap found? := gather_eq hrow_paths (by simp)
    exact ⟨rows,hrows,rfl,by simpa [Function.comp_def] using hindex,hrows.reports,
      by simpa using hfetched⟩
  · rintro done file e last ⟨split,reviewed,answer⟩
    exact run_eq_error_iff.mpr ⟨done,file,_,_,_,split,reviewed,.fetching answer⟩
  · obtain ⟨rows,hrows,-⟩ := run_eq_ok_iff.mp h
    exact hrows.requests hnotes
  · rintro done file e last ⟨split,reviewed,answer⟩
    have hfetched := (hnotes _ _).of_run answer
    rw [hfetched, reviewed.requests hnotes, List.append_assoc, List.map_append, List.map_singleton]

/-- A host that notes where it looks; it holds one file and fails on another. -/
def notingHost : Fetch := fun repository path => do
  modify fun st => { st with requests := st.requests ++ [.get (repository.url ++ "/" ++ path)] }
  if path = "T.sol" then return some "a\n"
  else if path = "src/V.sol" then throw .http
  else return none

/-- A package, and all packages of its owner. -/
def withPackages : Config :=
  { Config.bare [] ⟨"main", "", ""⟩ with
    dependencies := [("@oz", ⟨"all", "", ""⟩), ("@oz/contracts", ⟨"one", "", ""⟩)] }

/-- A file of a package and one that is not found, and a third one whose fetch fails. -/
theorem rows_of_run_packages : ∃ r last rows failed,
    let sources := [("@oz/contracts/T.sol", "a\n"), ("src/U.sol", "b\n")]
    let w := World.answering fun _ => none
    (sources.map Prod.fst).Nodup ∧ (withPackages.dependencies.map Prod.fst).Nodup ∧
    (Review.run notingHost withPackages "digest" "0x1" sources).run w {} = (.ok r, last) ∧
    r.files = rows.map Prod.fst ∧ r.files.map (·.index) = [1, 2] ∧
    List.Forall₂ (Reports .shortest) sources rows ∧ r.fetched = rows.filterMap found? ∧
    last.requests.map (·.url) = ["one/T.sol", "main/src/U.sol"] ∧
    Review.run notingHost { withPackages with
      dependencies := withPackages.dependencies.reverse } "digest" "0x1" sources =
      Review.run notingHost withPackages "digest" "0x1" sources ∧
    FetchFails notingHost withPackages "digest" "0x1" w {} (sources ++ [("src/V.sol", "")]) sources
      ("src/V.sol", "") .http failed ∧
    (Review.run notingHost withPackages "digest" "0x1" (sources ++ [("src/V.sol", "")])).run w {} =
      (.error .http, failed) ∧
    failed.requests.map (·.url) = ["one/T.sol", "main/src/U.sol", "main/src/V.sol"] := by
  let sources := [("@oz/contracts/T.sol", "a\n"), ("src/U.sol", "b\n")]
  let w := World.answering fun _ => none
  have hpaths : (sources.map Prod.fst).Nodup := by decide
  have hall : ((sources ++ [("src/V.sol", "")]).map Prod.fst).Nodup := by decide
  have hkeys : (withPackages.dependencies.map Prod.fst).Nodup := by decide
  have hnotes : Notes notingHost fun p => .get (p.1.url ++ "/" ++ p.2) := by
    intro repository path w st
    unfold notingHost
    split_ifs <;> rfl
  have hfound : ((Review.run notingHost withPackages "digest" "0x1" sources).run w {}).1.toOption.map
      (fun r => r.files.map (·.found)) = some [true, false] := by decide +kernel
  obtain ⟨r,last,hrun,-⟩ := exists_run_eq_ok hfound
  obtain ⟨hrows,horder,-,hrequests⟩ := rows_of_run hpaths hkeys
  obtain ⟨rows,hreviews,hfiles,hindex,hreports,hfetched⟩ := hrows r last hrun
  have hlast := (hrequests _ hnotes).1 r last hrun
  -- the third file is fetched after the first two
  obtain ⟨failed,hanswer⟩ : ∃ failed, (notingHost (place withPackages ("src/V.sol", "")).1
      (place withPackages ("src/V.sol", "")).2).run w last = (.error .http, failed) := ⟨_,rfl⟩
  have hfails : FetchFails notingHost withPackages "digest" "0x1" w {}
      (sources ++ [("src/V.sol", "")]) sources ("src/V.sol", "") .http failed :=
    .intro rfl hreviews hanswer
  obtain ⟨-,-,hends,hall_requests⟩ := rows_of_run hall hkeys
  have hfailed := (hall_requests _ hnotes).2 _ _ _ _ hfails
  refine ⟨r,last,rows,failed,hpaths,hkeys,hrun,hfiles,hindex,hreports,hfetched,?_,
    horder _ (List.reverse_perm _),hfails,hends _ _ _ _ hfails,?_⟩
  · rw [hlast]
    decide +kernel
  · rw [hfailed]
    decide +kernel

end Review

end DeployCheck
