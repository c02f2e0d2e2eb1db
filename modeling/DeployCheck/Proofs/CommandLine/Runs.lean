import DeployCheck.CommandLine.Basic
import DeployCheck.Proofs.Logs
import DeployCheck.Proofs.Verification.Run
import Mathlib.Data.List.Sort

/-! Runs over the configurations of a path. Configurations are processed one after the other, each
in the state that those before it leave. The first that fails ends the command and has the last
word, and bytecode failures that are only counted end nothing. -/
namespace DeployCheck.CommandLine

open DeployCheck.Action

section Steps

variable (options : Options) (w : World) (path : String) (st : State)

/-- A configuration completes: it is loaded, a verifier is built for it, and its run ends with a
summary. -/
inductive Completes : Summary → State → Prop
  | intro {config : Config} {verifier : Verifier} {summary : Summary} {loaded built last : State}
    (loads : (Config.load path).run w st = (.ok config, loaded))
    (builds : (Verifier.ofConfig config options).run w loaded = (.ok verifier, built))
    (runs : verifier.run.run w built = (.ok summary, last)) : Completes summary last

/-- A configuration ends the command, in the state that the failing step leaves. -/
inductive Breaks : Failure → State → Prop
  | load {e : Failure} {last : State}
    (load_error : (Config.load path).run w st = (.error e, last)) : Breaks e last
  | build {config : Config} {e : Failure} {loaded last : State}
    (loads : (Config.load path).run w st = (.ok config, loaded))
    (build_error : (Verifier.ofConfig config options).run w loaded = (.error e, last)) :
    Breaks e last
  | run {config : Config} {verifier : Verifier} {e : Failure} {loaded built last : State}
    (loads : (Config.load path).run w st = (.ok config, loaded))
    (builds : (Verifier.ofConfig config options).run w loaded = (.ok verifier, built))
    (run_error : verifier.run.run w built = (.error e, last)) : Breaks e last

end Steps

/-- Configurations complete one after the other. -/
inductive CompletesAll (options : Options) (w : World) :
    State → List String → List Summary → State → Prop
  | nil (st : State) : CompletesAll options w st [] [] st
  | cons {st next last : State} {path : String} {summary : Summary} {rest : List String}
    {summaries : List Summary} (head : Completes options w path st summary next)
    (tail : CompletesAll options w next rest summaries last) :
    CompletesAll options w st (path :: rest) (summary :: summaries) last

/-- How many contracts have failing bytecode in several runs. -/
def totalFailures : List Summary → Nat
  | [] => 0
  | summary :: rest => summary.failures + totalFailures rest

variable {options : Options} {w : World} {st last : State} {path : String} {paths : List String}

theorem runFile_eq_ok_iff {failures : Nat} :
    (runFile options path).run w st = (.ok failures, last) ↔
      ∃ summary, Completes options w path st summary last ∧ summary.failures = failures := by
  unfold runFile
  simp only [run_bind_eq_ok_iff, run_pure, Prod.mk.injEq, Except.ok.injEq]
  constructor
  · rintro ⟨config,loaded,hload,verifier,built,hbuild,summary,last,hrun,rfl,rfl⟩
    exact ⟨summary,.intro hload hbuild hrun,rfl⟩
  · rintro ⟨_,⟨hload,hbuild,hrun⟩,rfl⟩
    exact ⟨_,_,hload,_,_,hbuild,_,_,hrun,rfl,rfl⟩

theorem runFile_eq_error_iff {e : Failure} :
    (runFile options path).run w st = (.error e, last) ↔ Breaks options w path st e last := by
  unfold runFile
  simp only [run_bind_eq_error_iff, run_pure, Prod.mk.injEq, reduceCtorEq, false_and, and_false,
    exists_false, or_false]
  constructor
  · rintro (hload | ⟨config,loaded,hload,hbuild | ⟨verifier,built,hbuild,hrun⟩⟩)
    · exact .load hload
    · exact .build hload hbuild
    · exact .run hload hbuild hrun
  · intro h
    cases h with
    | load hload => exact .inl hload
    | build hload hbuild => exact .inr ⟨_,_,hload,.inl hbuild⟩
    | run hload hbuild hrun => exact .inr ⟨_,_,hload,.inr ⟨_,_,hbuild,hrun⟩⟩

theorem runFiles_eq_ok_iff {failures : Nat} :
    (runFiles options paths).run w st = (.ok failures, last) ↔
      ∃ summaries, CompletesAll options w st paths summaries last ∧
        totalFailures summaries = failures := by
  induction paths generalizing st failures last with
  | nil =>
    constructor
    · intro h
      obtain ⟨rfl,rfl⟩ : 0 = failures ∧ st = last := by simpa [runFiles] using h
      exact ⟨[],.nil st,rfl⟩
    · rintro ⟨_,h,rfl⟩
      cases h
      rfl
  | cons path rest ih =>
    simp only [runFiles, run_bind_eq_ok_iff, runFile_eq_ok_iff, ih, run_pure, Prod.mk.injEq,
      Except.ok.injEq]
    constructor
    · rintro ⟨_,next,⟨summary,hhead,rfl⟩,_,_,⟨summaries,htail,rfl⟩,rfl,rfl⟩
      exact ⟨summary :: summaries,.cons hhead htail,by simp [totalFailures]⟩
    · rintro ⟨_,h,rfl⟩
      cases h with
      | cons hhead htail =>
        exact ⟨_,_,⟨_,hhead,rfl⟩,_,_,⟨_,htail,rfl⟩,by simp [totalFailures],rfl⟩

/-- Processing configurations fails where the first of them fails. Those before it complete, and
those behind it have no part in the failure. -/
theorem runFiles_eq_error_iff {e : Failure} :
    (runFiles options paths).run w st = (.error e, last) ↔
      ∃ passed path later summaries mid, paths = passed ++ path :: later ∧
        CompletesAll options w st passed summaries mid ∧ Breaks options w path mid e last := by
  induction paths generalizing st with
  | nil => simp [runFiles]
  | cons path rest ih =>
    simp only [runFiles, run_bind_eq_error_iff, runFile_eq_ok_iff, runFile_eq_error_iff, ih,
      run_pure, Prod.mk.injEq, reduceCtorEq, false_and, and_false, exists_false, or_false]
    constructor
    · rintro (hbreak | ⟨_,next,⟨summary,hhead,rfl⟩,passed,path',later,summaries,mid,rfl,hpassed,
        hbreak⟩)
      · exact ⟨[],path,rest,[],st,rfl,.nil st,hbreak⟩
      · exact ⟨path :: passed,path',later,summary :: summaries,mid,rfl,.cons hhead hpassed,hbreak⟩
    · rintro ⟨passed,path',later,summaries,mid,hpaths,hpassed,hbreak⟩
      cases hpassed with
      | nil =>
        obtain ⟨rfl,rfl⟩ : path = path' ∧ rest = later := by simpa using hpaths
        exact .inl hbreak
      | cons hhead htail =>
        obtain ⟨rfl,rfl⟩ := by simpa using hpaths
        exact .inr ⟨_,_,⟨_,hhead,rfl⟩,_,_,_,_,_,rfl,htail,hbreak⟩

/-! ## Configurations of a path -/

/-- The configurations of a path in ascending order: the path itself, or names in its directory. -/
def Ascending (directory : String) (paths : List String) : Prop :=
  paths = [directory] ∨ ∃ names : List String, names.Pairwise (· ≤ ·) ∧
    (∀ name ∈ names, '/' ∉ name.toList) ∧ paths = names.map (Path.join directory)

lemma ascending_namesIn (fs : Files) (directory : String) :
    (fs.namesIn directory).Pairwise (· ≤ ·) := by
  have htrans : ∀ a b c : String, decide (a ≤ b) = true → decide (b ≤ c) = true →
      decide (a ≤ c) = true := fun a b c hab hbc => by
    simpa using String.le_trans (by simpa using hab) (by simpa using hbc)
  have htotal : ∀ a b : String, (decide (a ≤ b) || decide (b ≤ a)) = true := fun a b => by
    simpa using String.le_total a b
  simpa [Files.namesIn] using List.pairwise_mergeSort htrans htotal _

lemma slashless_of_mem_namesIn {fs : Files} {directory name : String}
    (h : name ∈ fs.namesIn directory) : '/' ∉ name.toList := by
  obtain ⟨e,-,he⟩ := List.mem_filterMap.mp (List.mem_mergeSort.mp h)
  split at he
  · cases he
  · next hslash =>
    obtain rfl := Option.some.inj he
    simpa using hslash

/-- Listing the configurations of a path leaves the state as it is. -/
theorem ascending_pathsIn {directory : String} {result : Except Failure (List String)}
    (h : (Config.pathsIn directory).run w st = (result, last)) :
    st = last ∧ ∀ paths, result = .ok paths → Ascending directory paths := by
  unfold Config.pathsIn at h
  rw [run_bind, run_files] at h
  dsimp only at h
  split at h
  · cases h
    exact ⟨rfl,fun _ hpaths => .inl (Except.ok.inj hpaths).symm⟩
  · split at h
    · cases h
      exact ⟨rfl,fun _ hpaths => nomatch hpaths⟩
    · cases h
      refine ⟨rfl,fun _ hpaths => .inr ?_⟩
      obtain rfl := Except.ok.inj hpaths
      rw [List.filter_map]
      exact ⟨_,(ascending_namesIn _ _).filter _,
        fun name hname => slashless_of_mem_namesIn (List.mem_of_mem_filter hname),rfl⟩

/-! ## The command -/

/-- What is recorded where bytecode fails. -/
def failuresEvent (failures : Nat) : Event :=
  ⟨"bytecode verification failed", [("failures", toString failures)]⟩

/-- A state with further events. -/
def noted (st : State) (events : List Event) : State := { st with events := st.events ++ events }

/-- The options of a run are those that its arguments give in its world. -/
lemma exists_options (args : RunArguments) (w : World) :
    ∃ options, ∀ st, (optionsOf args).run w st = (.ok options, st) :=
  ⟨_,fun _ => rfl⟩

lemma run_run {args : RunArguments} (hoptions : (optionsOf args).run w st = (.ok options, st)) :
    (run args).run w st = match (Config.pathsIn args.path).run w st with
      | (.error e, last) => (.error (.verification e), last)
      | (.ok paths, next) =>
        match (runFiles options paths).run w next with
        | (.error e, last) => (.error (.verification e), last)
        | (.ok failures, last) =>
          if failures > 0 then
            (.error (.failedContracts failures), noted last [failuresEvent failures])
          else (.ok (), last) := by
  unfold run
  rw [run_bind, hoptions]
  dsimp only
  rw [run_bind, run_mapFailure, run_bind]
  rcases (Config.pathsIn args.path).run w st with ⟨e | paths,next⟩
  · rfl
  · dsimp only
    rcases (runFiles options paths).run w next with ⟨e | failures,last⟩
    · rfl
    · dsimp only [Except.mapError]
      split <;> rfl

/-- A command that can be carried out ends the program with success or with its error event. -/
lemma run_status (c : Command) : c.status.run w st = match c.prepare.run w st with
    | (.error _, last) => (.ok .failure, last)
    | (.ok (), ready) => match c.execute.run w ready with
      | (.ok (), last) => (.ok .success, last)
      | (.error e, last) => (.ok .failure, noted last [⟨e.message, []⟩]) := rfl

/-- The program succeeds exactly if a command can be carried out and its execution succeeds, and
otherwise its failure is the last event. -/
lemma status_eq_success_iff {c : Command} : c.status.run w st = (.ok .success, last) ↔
    ∃ ready, c.prepare.run w st = (.ok (), ready) ∧ c.execute.run w ready = (.ok (), last) := by
  rw [run_status]
  rcases c.prepare.run w st with ⟨e | _,ready⟩
  · simp
  · rcases hexecute : c.execute.run w ready with ⟨e | _,reached⟩ <;> simp [hexecute]

lemma status_of_error {c : Command} {ready : State} {e : CommandError}
    (hready : c.prepare.run w st = (.ok (), ready))
    (hexecute : c.execute.run w ready = (.error e, last)) :
    c.status.run w st = (.ok .failure, noted last [⟨e.message, []⟩]) := by
  rw [run_status, hready]
  dsimp only
  rw [hexecute]

section Run

variable {args : RunArguments} (hoptions : (optionsOf args).run w st = (.ok options, st))

include hoptions

theorem run_eq_ok_iff : (run args).run w st = (.ok (), last) ↔
    ∃ paths summaries, (Config.pathsIn args.path).run w st = (.ok paths, st) ∧
      CompletesAll options w st paths summaries last ∧ totalFailures summaries = 0 := by
  rw [run_run hoptions]
  constructor
  · intro h
    rcases hpaths : (Config.pathsIn args.path).run w st with ⟨e | paths,next⟩
    · simp [hpaths] at h
    · obtain rfl := (ascending_pathsIn hpaths).1
      rcases hruns : (runFiles options paths).run w st with ⟨e | failures,reached⟩
      · simp [hpaths, hruns] at h
      · obtain ⟨summaries,hall,rfl⟩ := runFiles_eq_ok_iff.mp hruns
        by_cases hpositive : 0 < totalFailures summaries
        · simp [hpaths, hruns, hpositive] at h
        · obtain rfl : reached = last := by simpa [hpaths, hruns, hpositive] using h
          exact ⟨paths,summaries,rfl,hall,Nat.eq_zero_of_not_pos hpositive⟩
  · rintro ⟨paths,summaries,hpaths,hall,hzero⟩
    rw [hpaths]
    dsimp only
    rw [runFiles_eq_ok_iff.mpr ⟨summaries,hall,hzero⟩]
    rfl

lemma run_of_pathsIn_error {e : Failure}
    (hpaths : (Config.pathsIn args.path).run w st = (.error e, last)) :
    last = st ∧ (run args).run w st = (.error (.verification e), st) := by
  obtain rfl := (ascending_pathsIn hpaths).1
  rw [run_run hoptions, hpaths]
  exact ⟨rfl,rfl⟩

lemma run_of_runFiles_error {e : Failure}
    (hpaths : (Config.pathsIn args.path).run w st = (.ok paths, st))
    (hruns : (runFiles options paths).run w st = (.error e, last)) :
    (run args).run w st = (.error (.verification e), last) := by
  rw [run_run hoptions, hpaths]
  dsimp only
  rw [hruns]

lemma run_of_failures {summaries : List Summary}
    (hpaths : (Config.pathsIn args.path).run w st = (.ok paths, st))
    (hall : CompletesAll options w st paths summaries last)
    (hpositive : 0 < totalFailures summaries) :
    (run args).run w st = (.error (.failedContracts (totalFailures summaries)),
      noted last [failuresEvent (totalFailures summaries)]) := by
  rw [run_run hoptions, hpaths]
  dsimp only
  rw [runFiles_eq_ok_iff.mpr ⟨summaries,hall,rfl⟩]
  dsimp only
  rw [if_pos hpositive]

end Run

/-- A run processes the configurations of its path in ascending order. It succeeds exactly if these
are found, all of them complete and none of their contracts has failing bytecode. A failure to find
them, or of the first configuration that fails, ends it with that failure in the state then reached,
whatever would come later. If all complete, it names the number of contracts with failing bytecode.
The program succeeds exactly if the log can be opened and the run then succeeds, and a run's failure
is its last event. -/
theorem status_run (args : RunArguments) (w : World) : ∃ options, ∀ st,
    (optionsOf args).run w st = (.ok options, st) ∧
    (∀ paths next, (Config.pathsIn args.path).run w st = (.ok paths, next) →
      next = st ∧ Ascending args.path paths) ∧
    (∀ last, (run args).run w st = (.ok (), last) ↔
      ∃ paths summaries, (Config.pathsIn args.path).run w st = (.ok paths, st) ∧
        CompletesAll options w st paths summaries last ∧ totalFailures summaries = 0) ∧
    (∀ e last, (Config.pathsIn args.path).run w st = (.error e, last) →
      last = st ∧ (run args).run w st = (.error (.verification e), st)) ∧
    (∀ passed path later summaries mid e last,
      (Config.pathsIn args.path).run w st = (.ok (passed ++ path :: later), st) →
      CompletesAll options w st passed summaries mid → Breaks options w path mid e last →
      (run args).run w st = (.error (.verification e), last) ∧
      ∀ others, (runFiles options (passed ++ path :: others)).run w st = (.error e, last)) ∧
    (∀ paths summaries last, (Config.pathsIn args.path).run w st = (.ok paths, st) →
      CompletesAll options w st paths summaries last → 0 < totalFailures summaries →
      ∃ e, (run args).run w st = (.error e, noted last [failuresEvent (totalFailures summaries)]) ∧
        e.message =
          toString (totalFailures summaries) ++ " contract(s) failed bytecode comparison") ∧
    (∀ last, (Command.run args).status.run w st = (.ok .success, last) ↔
      ∃ logged, (Command.run args).prepare.run w st = (.ok (), logged) ∧
        (run args).run w logged = (.ok (), last)) ∧
    ∀ logged e last, (Command.run args).prepare.run w st = (.ok (), logged) →
      (run args).run w logged = (.error e, last) →
      (Command.run args).status.run w st = (.ok .failure, noted last [⟨e.message, []⟩]) := by
  obtain ⟨options,hoptions⟩ := exists_options args w
  refine ⟨options,fun st => ⟨hoptions st,?_,fun _ => run_eq_ok_iff (hoptions st),
    fun _ _ => run_of_pathsIn_error (hoptions st),?_,?_,fun _ => status_eq_success_iff,
    fun _ _ _ => status_of_error⟩⟩
  · intro paths next hpaths
    obtain ⟨rfl,hascending⟩ := ascending_pathsIn hpaths
    exact ⟨rfl,hascending _ rfl⟩
  · intro passed path later summaries mid e last hpaths hpassed hbreak
    have hruns := fun others => runFiles_eq_error_iff.mpr
      ⟨passed,path,others,summaries,mid,rfl,hpassed,hbreak⟩
    exact ⟨run_of_runFiles_error (hoptions st) hpaths (hruns later),hruns⟩
  · intro paths summaries last hpaths hall hpositive
    exact ⟨_,run_of_failures (hoptions st) hpaths hall hpositive,rfl⟩

/-- A configuration of one contract, which is expected under the name that it is reported under. -/
def soundConfig : String :=
  "\x7b\"contracts\": \x7b\"0x0000000000000000000000000000000000000001\": \"A\"\x7d, " ++
    "\"github_repo\": \x7b\"url\": \"https://github.com/owner/name\", \"commit\": \"c\"\x7d, " ++
    "\"explorer_hostname\": \"blockscout.com\"\x7d"

/-- A directory with three configurations, of which the second is empty. -/
def directoryOfThree : Files :=
  ((({} : Files).seed "d/c.json" soundConfig).seed "d/b.json" "").seed "d/a.json" soundConfig

def runOfDirectory : RunArguments := ⟨"d", true, false, true, ".", none, none, some "digest", false⟩

/-- The state with an open log of that run. -/
def logOfDirectory : State :=
  ((Command.run runOfDirectory).prepare.run Verifier.uniformExplorer
    { files := directoryOfThree }).2

lemma pathsIn_directoryOfThree :
    (Config.pathsIn "d").run Verifier.uniformExplorer logOfDirectory =
      (.ok ["d/a.json", "d/b.json", "d/c.json"], logOfDirectory) := by
  have hfound : ((logOfDirectory.files.inside "d").filterMap fun e =>
      if e.1.toList.contains '/' then none else some e.1) = ["c.json", "b.json", "a.json"] := by
    decide +kernel
  have hnames : logOfDirectory.files.namesIn "d" = ["a.json", "b.json", "c.json"] := by
    unfold Files.namesIn
    rw [hfound]
    simp [List.mergeSort, List.MergeSort.Internal.splitInTwo, List.splitAt, List.splitAt.go]
  have hdirectory : logOfDirectory.files.isDirectory "d" = true := by decide +kernel
  have hfiles : ((["a.json", "b.json", "c.json"].map (Path.join "d")).filter fun p =>
      logOfDirectory.files.isFile p && Path.extension? p == some "json") =
      ["d/a.json", "d/b.json", "d/c.json"] := by decide +kernel
  unfold Config.pathsIn
  rw [run_bind, run_files]
  dsimp only
  rw [hnames, hfiles, hdirectory]
  rfl

/-- A run that breaks at the second of three configurations sends nothing for the third. -/
theorem status_run_second_breaks : ∃ options passed path later summaries mid e last,
    (Config.pathsIn "d").run Verifier.uniformExplorer logOfDirectory =
      (.ok (passed ++ path :: later), logOfDirectory) ∧
    CompletesAll options Verifier.uniformExplorer logOfDirectory passed summaries mid ∧
    Breaks options Verifier.uniformExplorer path mid e last ∧
    (Command.run runOfDirectory).status.run Verifier.uniformExplorer { files := directoryOfThree } =
      (.ok .failure, noted last [⟨e.message, []⟩]) ∧
    last.requests.map (·.url) =
      ["https://blockscout.com/api/v2/smart-contracts/0x0000000000000000000000000000000000000001",
        "https://api.github.com/repos/owner/name/contents/A?ref=c"] := by
  have hopen : (Command.run runOfDirectory).prepare.run Verifier.uniformExplorer
      { files := directoryOfThree } = (.ok (), logOfDirectory) := by
    obtain ⟨_,last,hrun,-⟩ := exists_run_eq_ok (f := id) (b := ())
      (show ((Command.run runOfDirectory).prepare.run Verifier.uniformExplorer
        { files := directoryOfThree }).1.toOption.map id = some () by decide +kernel)
    rw [hrun, logOfDirectory, hrun]
  obtain ⟨options,hall⟩ := status_run runOfDirectory Verifier.uniformExplorer
  obtain ⟨hoptions,-,-,-,hstops,-⟩ := hall logOfDirectory
  obtain ⟨-,-,-,-,-,-,-,hstatus⟩ := hall { files := directoryOfThree }
  have hruns : (match (runFiles options ["d/a.json", "d/b.json", "d/c.json"]).run
        Verifier.uniformExplorer logOfDirectory with
      | (.error _, last) => last.requests.map (·.url)
      | (.ok _, _) => []) =
      ["https://blockscout.com/api/v2/smart-contracts/0x0000000000000000000000000000000000000001",
        "https://api.github.com/repos/owner/name/contents/A?ref=c"] := by
    cases hoptions
    decide +kernel
  rcases hfiles : (runFiles options ["d/a.json", "d/b.json", "d/c.json"]).run
    Verifier.uniformExplorer logOfDirectory with ⟨e | failures,last⟩
  · rw [hfiles] at hruns
    obtain ⟨passed,path,later,summaries,mid,hpaths,hpassed,hbreak⟩ :=
      runFiles_eq_error_iff.mp hfiles
    have hfound := hpaths ▸ pathsIn_directoryOfThree
    exact ⟨options,passed,path,later,summaries,mid,e,last,hfound,hpassed,hbreak,
      hstatus _ _ _ hopen (hstops _ _ _ _ _ _ _ hfound hpassed hbreak).1,hruns⟩
  · rw [hfiles] at hruns
    cases hruns

end DeployCheck.CommandLine
