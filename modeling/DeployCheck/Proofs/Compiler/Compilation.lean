import DeployCheck.Proofs.Compiler.Cache

/-! Compilations. A path is refused unless an executable program stands there. One that was just
handed out is refused if its program was kept from before and cannot be executed: only a program
that is fetched is made executable. -/
namespace DeployCheck

lemma Path.slash_mem_join {directory path : String} :
    '/' ∈ (Path.join directory path).toList ↔ directory ≠ "" ∨ '/' ∈ path.toList := by
  unfold Path.join
  split
  · next halone =>
    rcases Bool.or_eq_true_iff.mp halone with habsolute | hempty
    · obtain ⟨rest,hrest⟩ := Option.isSome_iff_exists.mp habsolute
      have hmem : '/' ∈ path.toList := by simp [Text.after?_eq_some_iff.mp hrest]
      simp [hmem]
    · simp [String.isEmpty_iff.mp hempty]
  · next hplain =>
    have hdirectory : directory ≠ "" := by
      rintro rfl
      simp at hplain
    split
    · next hends =>
      obtain ⟨rest,hrest⟩ := Option.isSome_iff_exists.mp hends
      have hmem : '/' ∈ directory.toList := by simp [Text.before?_eq_some_iff.mp hrest]
      simp [hdirectory, hmem]
    · simp [hdirectory]

namespace Compiler

open DeployCheck.Action DeployCheck.Session

variable {w : World} {directory path : String} {build : Build} {input : CompilerInput}
variable {st last : State}

/-- A path that can be run: it has a slash and leads to an executable program. -/
def Runnable (fs : Files) (path : String) (program : Blob) : Prop :=
  '/' ∈ path.toList ∧ fs.fileAt? path = some (program, true)

/-- What the end of a compiler says: the output counts if the compiler ends well and reports no
error text. -/
def reading (outcome : Outcome) : Except Failure Json :=
  if outcome.status ≠ 0 then
    .error (.compiler (.exited ⟨outcome.status, outcome.complaint.text⟩))
  else match outcome.output.json? with
    | none => .error .serialization
    | some output =>
      match errorTexts output with
      | [] => .ok output
      | texts => .error (.compiler (.reported texts))

/-- What a program answers to an input. -/
def answer (w : World) (program : Blob) (input : CompilerInput) : Except Failure Json :=
  ending w program input >>= reading

lemma reading_eq_ok_iff {outcome : Outcome} {output : Json} : reading outcome = .ok output ↔
    outcome.status = 0 ∧ outcome.output.json? = some output ∧ errorTexts output = [] := by
  unfold reading
  split
  · next hstatus => simp [hstatus]
  · next hstatus =>
    cases outcome.output.json? with
    | none => simp
    | some parsed =>
      simp only [Option.some.injEq]
      constructor
      · intro h
        split at h
        · next htexts =>
          obtain rfl := Except.ok.inj h
          exact ⟨by simpa using hstatus,rfl,htexts⟩
        · cases h
      · rintro ⟨-,rfl,htexts⟩
        rw [htexts]

lemma reading_ne_io (outcome : Outcome) : reading outcome ≠ .error .io := by
  unfold reading
  split
  · simp
  · split
    · simp
    · split <;> simp

/-- Without an obstacle the end of a program decides. -/
lemma answer_of_free {program : Blob} (h : w.obstacle program input = none) :
    answer w program input = reading (w.compiler program input) := by
  unfold answer ending
  rw [h]
  rfl

/-- The system finds that a file is no program, or cannot hand its input to it. -/
def Hinders (w : World) (program : Blob) (input : CompilerInput) : Prop :=
  w.obstacle program input = some .unfit ∨ w.obstacle program input = some .deaf

lemma answer_eq_io_iff {program : Blob} :
    answer w program input = .error .io ↔ Hinders w program input := by
  unfold answer ending Hinders
  cases w.obstacle program input with
  | none => simpa [bind, Except.bind] using reading_ne_io (w.compiler program input)
  | some obstacle => cases obstacle <;> simp [bind, Except.bind]

lemma answer_eq_ok_iff {program : Blob} {output : Json} : answer w program input = .ok output ↔
    w.obstacle program input = none ∧ reading (w.compiler program input) = .ok output := by
  cases hobstacle : w.obstacle program input with
  | none => simp [answer_of_free hobstacle]
  | some obstacle => cases obstacle <;> simp [answer, ending, hobstacle, bind, Except.bind]

/-- The state once a program was started; what is no program is not. -/
def started (w : World) (st : State) (c : Compilation) : State :=
  if w.obstacle c.program c.input = some .unfit then st
  else { st with compilations := st.compilations ++ [c] }

lemma run_runAt_of_runnable {program : Blob} (h : Runnable st.files path program) :
    (runAt path input).run w st =
      (ending w program input, started w st ⟨path, program, input⟩) := by
  obtain ⟨hslash,hfile⟩ := h
  have hread : (contentsOf path).run w st = (.ok program, st) :=
    contentsOf_eq_ok_iff.mpr ⟨by simp [Files.contents?, hfile],rfl⟩
  by_cases hunfit : w.obstacle program input = some .unfit <;>
    simp [runAt, started, run_bind, hslash, Files.isExecutable, hfile, hread, hunfit]

lemma run_runAt_of_not_runnable (h : ∀ program, ¬Runnable st.files path program) :
    (runAt path input).run w st = (.error .io, st) := by
  have hrefused : (!path.toList.contains '/' || !st.files.isExecutable path) = true := by
    by_contra hno
    obtain ⟨hslash,⟨program,executable⟩,hfile,rfl⟩ : '/' ∈ path.toList ∧
        ∃ file, st.files.fileAt? path = some file ∧ file.2 = true := by
      simpa [Files.isExecutable, Option.any_eq_true] using hno
    exact h program ⟨hslash,hfile⟩
  unfold runAt
  rw [run_bind, run_files]
  dsimp only
  rw [if_pos hrefused]
  rfl

/-- A program that can be run gets the input, and what it answers decides. -/
theorem run_compile_of_runnable {program : Blob} (h : Runnable st.files path program) :
    (compile path input).run w st =
      (answer w program input, started w st ⟨path, program, input⟩) := by
  unfold compile answer
  rw [run_bind, run_runAt_of_runnable h]
  cases ending w program input with
  | error e => rfl
  | ok outcome =>
    change _ = (reading outcome, _)
    unfold reading
    dsimp only
    split
    · rfl
    · rw [run_bind]
      cases outcome.output.json? with
      | none => rfl
      | some output =>
        rw [require, run_pure]
        dsimp only
        cases errorTexts output <;> rfl

theorem run_compile_of_not_runnable (h : ∀ program, ¬Runnable st.files path program) :
    (compile path input).run w st = (.error .io, st) := by
  unfold compile
  rw [run_bind, run_runAt_of_not_runnable h]

/-- A compilation fails in the system where its path cannot be run, or where the program there is
hindered, and nowhere else. -/
theorem compile_eq_io_iff : ((compile path input).run w st).1 = .error .io ↔
    (∀ program, ¬Runnable st.files path program) ∨
      ∃ program, Runnable st.files path program ∧ Hinders w program input := by
  by_cases hrunnable : ∃ program, Runnable st.files path program
  · obtain ⟨program,hprogram⟩ := hrunnable
    rw [run_compile_of_runnable hprogram, answer_eq_io_iff]
    constructor
    · exact fun hhinders => .inr ⟨program,hprogram,hhinders⟩
    · rintro (hno | ⟨other,hother,hhinders⟩)
      · exact absurd hprogram (hno program)
      · obtain ⟨rfl,-⟩ := Prod.mk.inj (Option.some.inj (hprogram.2.symm.trans hother.2))
        exact hhinders
  · have hno := not_exists.mp hrunnable
    rw [run_compile_of_not_runnable hno]
    exact iff_of_true rfl (.inl hno)

theorem compile_eq_ok_iff {output : Json} : (compile path input).run w st = (.ok output, last) ↔
    ∃ program, Runnable st.files path program ∧ answer w program input = .ok output ∧
      { st with compilations := st.compilations ++ [⟨path, program, input⟩] } = last := by
  have hstarted : ∀ {program}, answer w program input = .ok output →
      started w st ⟨path, program, input⟩ =
        { st with compilations := st.compilations ++ [⟨path, program, input⟩] } := by
    intro program h
    rw [started, (answer_eq_ok_iff.mp h).1, if_neg (by simp)]
  constructor
  · intro h
    by_cases hrunnable : ∃ program, Runnable st.files path program
    · obtain ⟨program,hrunnable⟩ := hrunnable
      rw [run_compile_of_runnable hrunnable, Prod.mk.injEq] at h
      exact ⟨program,hrunnable,h.1,(hstarted h.1).symm.trans h.2⟩
    · rw [run_compile_of_not_runnable (not_exists.mp hrunnable)] at h
      simp at h
  · rintro ⟨program,hrunnable,hanswer,rfl⟩
    rw [run_compile_of_runnable hrunnable, hanswer, hstarted hanswer]

/-! ## After a program was provided -/

/-- A fetched program is executable; one that was kept is what it was. -/
lemma Provides.runnable_iff (h : Provides w directory build st last) :
    (∃ program, Runnable last.files (Path.join directory build.path) program) ↔
      (directory ≠ "" ∨ '/' ∈ build.path.toList) ∧
      ¬∃ program, st.files.fileAt? (Path.join directory build.path) = some (program, false) ∧
        Build.Identifies build.keccak256 program.bytes := by
  unfold Runnable
  rw [Path.slash_mem_join, exists_and_left]
  refine and_congr_right fun _ => ?_
  cases h with
  | cached holds =>
    obtain ⟨program,executable,hfile,hdigest⟩ := holds
    cases executable <;> simp [hfile, hdigest]
  | @fetched reply made written lacks _ _ _ digest directories write =>
    have hkept : ¬∃ program,
        st.files.fileAt? (Path.join directory build.path) = some (program, false) ∧
          Build.Identifies build.keccak256 program.bytes := by
      rintro ⟨program,hfile,hdigest⟩
      rcases lacks with hnone | ⟨other,executable,hother,hno⟩
      · rw [Files.fileAt?_eq_none_of_not_exists hnone] at hfile
        cases hfile
      · rw [hfile] at hother
        cases hother
        exact hno hdigest
    simp [hkept, Files.fileAt?_write write]

/-- Right after its path was handed out, a compiler is refused if its path names no directory, or
if its program was kept and cannot be executed. It is also refused if the system is hindered in
running the program. Otherwise it is run, and its program has the digest of the build. -/
theorem compile_refused_iff_of_ensure (h : (ensure directory build).run w st = (.ok path, last))
    (input : CompilerInput) :
    (((compile path input).run w last).1 = .error .io ↔
      (directory = "" ∧ '/' ∉ build.path.toList ∨
        ∃ program, st.files.fileAt? path = some (program, false) ∧
          Build.Identifies build.keccak256 program.bytes) ∨
      ∃ program, Runnable last.files path program ∧ Hinders w program input) ∧
    (((compile path input).run w last).1 ≠ .error .io →
      ∃ program, Build.Identifies build.keccak256 program.bytes ∧
        ((compile path input).run w last).1 = answer w program input ∧
        ((compile path input).run w last).2.compilations =
          last.compilations ++ [⟨path, program, input⟩]) := by
  obtain ⟨rfl,hprovides⟩ := ensure_eq_ok_iff.mp h
  constructor
  · rw [compile_eq_io_iff, ← not_exists, hprovides.runnable_iff, not_and_or, not_not, not_or,
      not_not]
  · intro hrun
    rw [Ne, compile_eq_io_iff, not_or, not_forall_not] at hrun
    obtain ⟨⟨program,hrunnable⟩,hfree⟩ := hrun
    have hfit : w.obstacle program input ≠ some .unfit := fun hunfit =>
      hfree ⟨program,hrunnable,.inl hunfit⟩
    rw [run_compile_of_runnable hrunnable, started, if_neg hfit]
    exact ⟨program,hprovides.identifies hrunnable.2,rfl,rfl⟩

/-- A compiler with the digest of its build, kept in a file that cannot be executed, is handed out
and refused right after. -/
theorem compile_refused_kept : ¬∀ (w : World) (directory path : String) (build : Build)
    (input : CompilerInput) (st last : State), (∀ program, ¬Hinders w program input) →
    (ensure directory build).run w st = (.ok path, last) →
    ((compile path input).run w last).1 ≠ .error .io := by
  intro h
  have hfree : ∀ program, ¬Hinders publishing program ⟨"Solidity", [], .null⟩ := by
    rintro program (hunfit | hdeaf)
    · cases hunfit
    · cases hdeaf
  have hkept : (standing "cache/solc" sampleProgram).files.fileAt? "cache/solc" =
      some (sampleProgram, false) := by
    decide +kernel
  have hensure : (ensure "cache" sample).run publishing (standing "cache/solc" sampleProgram) =
      (.ok "cache/solc", standing "cache/solc" sampleProgram) :=
    ensure_eq_ok_iff.mpr ⟨rfl,.cached ⟨sampleProgram,false,hkept,identifies_sample⟩⟩
  refine h _ _ _ _ _ _ _ hfree hensure (compile_eq_io_iff.mpr (.inl ?_))
  rintro program ⟨-,hfile⟩
  rw [hkept] at hfile
  cases hfile

/-- The same program is run after it was fetched. -/
theorem compile_refused_iff_of_ensure_fetched : ∃ last,
    (ensure "cache" sample).run publishing {} = (.ok "cache/solc", last) ∧
    ((compile "cache/solc" ⟨"Solidity", [], .null⟩).run publishing last).1 ≠ .error .io := by
  have hmade : ({} : Files).makeDirectories? "cache" = some ⟨[("cache", .directory)]⟩ := by
    decide +kernel
  have hwritten : (⟨[("cache", .directory)]⟩ : Files).write? "cache/solc" sampleProgram true =
      some ⟨[("cache", .directory), ("cache/solc", .file sampleProgram true)]⟩ := by
    decide +kernel
  have hfetched : Provides publishing "cache" sample {} _ :=
    .fetched (.inl (by decide +kernel)) (by decide +kernel) rfl (by decide) identifies_sample hmade
      hwritten
  have hensure := ensure_eq_ok_iff.mpr ⟨rfl,hfetched⟩
  refine ⟨_,hensure,mt (compile_refused_iff_of_ensure hensure _).1.mp ?_⟩
  rintro ((⟨hempty,-⟩ | ⟨program,hfile,-⟩) | ⟨program,-,hhinders⟩)
  · exact absurd hempty (by decide)
  · have hnone : ({} : Files).fileAt? (Path.join "cache" sample.path) = none := by decide +kernel
    exact Option.some_ne_none _ (hfile.symm.trans hnone)
  · rcases hhinders with hunfit | hdeaf
    · cases hunfit
    · cases hdeaf

end Compiler

end DeployCheck
