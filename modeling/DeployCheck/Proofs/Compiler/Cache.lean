import DeployCheck.Compiler.Basic
import DeployCheck.Proofs.Files.Stored
import DeployCheck.Proofs.Requests

/-! Compilers that are kept between runs. Whatever stands at a compiler's path before, it is handed
out only with the digest of its build, and a failure to get it changes no file. -/
namespace DeployCheck

/-- A digest names a program: it is the program's digest in hexadecimal, in either letter case, with
a marker or without one. -/
def Build.Identifies (digest : String) (program : List UInt8) : Prop :=
  ∃ digits : String, (digest = digits ∨ digest = "0x" ++ digits) ∧
    digits.map Char.toLower = Text.Hex.encode (Hash.Keccak.digest program)

lemma not_mem_encode (bytes : List UInt8) : 'x' ∉ (Text.Hex.encode bytes).toList := by
  have hdigit : ∀ n < 16, Text.Hex.digit n ≠ 'x' := by decide
  rw [Text.Hex.encode, String.toList_ofList, List.mem_flatMap]
  rintro ⟨b,-,hb⟩
  have hbyte := b.toNat_lt
  rcases List.mem_pair.mp hb with h | h
  · exact hdigit _ (by omega) h.symm
  · exact hdigit _ (by omega) h.symm

/-- The check accepts the digests that name the program. -/
theorem Build.hasDigest_iff {program : List UInt8} {digest : String} :
    hasDigest program digest = true ↔ Identifies digest program := by
  rw [hasDigest, beq_iff_eq, plainDigest, digestOf]
  constructor
  · intro h
    cases hmark : Text.textAfter? "0x" digest with
    | none =>
      rw [hmark] at h
      exact ⟨digest,.inl rfl,h⟩
    | some digits =>
      rw [hmark] at h
      exact ⟨digits,.inr (Text.textAfter?_eq_some_iff.mp hmark),h⟩
  · rintro ⟨digits,rfl | hdigest,h⟩
    · cases hmark : Text.textAfter? "0x" digest with
      | none => exact h
      | some digits =>
        -- a marker is no part of a digest
        refine absurd ?_ (not_mem_encode (Hash.Keccak.digest program))
        rw [← h, Text.textAfter?_eq_some_iff.mp hmark]
        simp
    · rw [Text.textAfter?_eq_some_iff.mpr hdigest]
      exact h

theorem Build.checkDigest_eq_ok_iff {program : List UInt8} {digest : String} {u : Unit} :
    checkDigest program digest = .ok u ↔ Identifies digest program := by
  rw [← hasDigest_iff, checkDigest]
  split <;> simp_all

namespace Compiler

open DeployCheck.Action DeployCheck.Session

variable {w : World} {directory : String} {build : Build} {st last : State}

/-- A program with the digest of a build is at a path. -/
def Holds (fs : Files) (path : String) (build : Build) : Prop :=
  ∃ program executable, fs.fileAt? path = some (program, executable) ∧
    Build.Identifies build.keccak256 program.bytes

/-- What is at a path, if anything, is a program with another digest. -/
def Lacks (fs : Files) (path : String) (build : Build) : Prop :=
  fs.exists? path = false ∨ ∃ program executable,
    fs.fileAt? path = some (program, executable) ∧ ¬Build.Identifies build.keccak256 program.bytes

/-- How a build's program comes to its path: it is there already, or it is fetched and stored. -/
inductive Provides (w : World) (directory : String) (build : Build) : State → State → Prop
  | cached {st : State} (holds : Holds st.files (Path.join directory build.path) build) :
    Provides w directory build st st
  | fetched {st : State} {reply : Reply} {made written : Files}
    (lacks : Lacks st.files (Path.join directory build.path) build)
    (host : NamesHost (.get (downloadUrl build.path)))
    (answer : w.reply st.requests (.get (downloadUrl build.path)) = some reply)
    (status : isErrorStatus reply.status = false)
    (digest : Build.Identifies build.keccak256 reply.body.bytes)
    (directories : st.files.makeDirectories? directory = some made)
    (write : made.write? (Path.join directory build.path) reply.body true = some written) :
    Provides w directory build st
      { st with requests := st.requests ++ [.get (downloadUrl build.path)], files := written }

/-- The check finds out whether a path holds a build's program; it fails where there is something
that cannot be read. -/
lemma isCached_eq_ok_iff {path : String} {cached : Bool} :
    (isCached path build).run w st = (.ok cached, last) ↔ st = last ∧
      if cached then Holds st.files path build else Lacks st.files path build := by
  unfold isCached Holds Lacks
  rw [run_bind, run_files]
  dsimp only
  cases hexists : st.files.exists? path with
  | false =>
    have hnone : st.files.fileAt? path = none := Files.fileAt?_eq_none_of_not_exists hexists
    cases cached <;> simp [hnone, and_comm]
  | true =>
    rw [if_pos rfl, run_bind]
    cases hfile : st.files.fileAt? path with
    | none =>
      have hread : (contentsOf path).run w st = (.error .io, st) := by
        simp [contentsOf, run_bind, Files.contents?, hfile, require_eq_error_iff]
      rw [hread]
      cases cached <;> simp
    | some file =>
      obtain ⟨program,executable⟩ := file
      have hread : (contentsOf path).run w st = (.ok program, st) :=
        contentsOf_eq_ok_iff.mpr ⟨by simp [Files.contents?, hfile],rfl⟩
      rw [hread]
      cases cached <;> simp [← Build.hasDigest_iff, and_comm]

lemma isCached_error {path : String} {e : Failure}
    (h : (isCached path build).run w st = (.error e, last)) : last = st := by
  unfold isCached at h
  rw [run_bind, run_files] at h
  dsimp only at h
  split at h
  · rcases run_bind_eq_error_iff.mp h with hread | ⟨_,_,_,h⟩
    · exact contentsOf_error hread
    · simp at h
  · simp at h

/-- A path is handed out for a program that is there or was fetched, with its digest, and for no
other. -/
theorem ensure_eq_ok_iff {path : String} :
    (ensure directory build).run w st = (.ok path, last) ↔
      path = Path.join directory build.path ∧ Provides w directory build st last := by
  unfold ensure
  dsimp only
  simp only [run_bind_eq_ok_iff, isCached_eq_ok_iff]
  constructor
  · rintro ⟨cached,_,⟨rfl,hcached⟩,h⟩
    cases cached with
    | true =>
      obtain ⟨rfl,rfl⟩ : _ = path ∧ st = last := by simpa using h
      exact ⟨rfl,.cached hcached⟩
    | false =>
      simp only [Bool.false_eq_true, if_false, run_bind_eq_ok_iff, run_ofExcept, run_pure,
        Prod.mk.injEq, Except.ok.injEq, Result.mapError_eq_ok_iff,
        Build.checkDigest_eq_ok_iff] at h hcached
      obtain ⟨reply,_,hreply,_,_,⟨hdigest,rfl⟩,_,_,hmake,_,_,hwrite,rfl,rfl⟩ := h
      obtain ⟨hsent,hstatus⟩ := sendChecked_eq_ok_iff.mp hreply
      obtain ⟨hhost,hanswer,rfl⟩ := send_eq_ok_iff.mp hsent
      obtain ⟨made,hmade,rfl⟩ := makeDirectories_eq_ok_iff.mp hmake
      obtain ⟨written,hwritten,rfl⟩ := writeFile_eq_ok_iff.mp hwrite
      exact ⟨rfl,.fetched hcached hhost hanswer hstatus hdigest hmade hwritten⟩
  · rintro ⟨rfl,h⟩
    cases h with
    | cached holds => exact ⟨true,st,⟨rfl,holds⟩,by simp⟩
    | fetched lacks host answer status digest directories write =>
      refine ⟨false,st,⟨rfl,lacks⟩,?_⟩
      simp only [Bool.false_eq_true, if_false, run_bind_eq_ok_iff, run_ofExcept, run_pure,
        Prod.mk.injEq, Result.mapError_eq_ok_iff, Build.checkDigest_eq_ok_iff]
      exact ⟨_,_,sendChecked_eq_ok_iff.mpr ⟨send_eq_ok_iff.mpr ⟨host,answer,rfl⟩,status⟩,(),_,
        ⟨digest,rfl⟩,(),_,makeDirectories_eq_ok_iff.mpr ⟨_,directories,rfl⟩,(),_,
        writeFile_eq_ok_iff.mpr ⟨_,write,rfl⟩,trivial,rfl⟩

/-- A failure to get a program changes no file. -/
theorem stored?_of_ensure_error {e : Failure}
    (h : (ensure directory build).run w st = (.error e, last)) (l : Location) :
    last.files.stored? l = st.files.stored? l := by
  unfold ensure at h
  dsimp only at h
  rcases run_bind_eq_error_iff.mp h with hcached | ⟨cached,next,hcached,hrest⟩
  · rw [isCached_error hcached]
  obtain ⟨rfl,-⟩ := isCached_eq_ok_iff.mp hcached
  cases cached with
  | true => simp at hrest
  | false =>
    simp only [Bool.false_eq_true, if_false] at hrest
    rcases run_bind_eq_error_iff.mp hrest with hsend | ⟨reply,sent,hsend,hrest⟩
    · rcases sendChecked_error hsend with rfl | rfl <;> rfl
    obtain ⟨-,-,rfl⟩ := send_eq_ok_iff.mp (sendChecked_eq_ok_iff.mp hsend).1
    rcases run_bind_eq_error_iff.mp hrest with hcheck | ⟨_,_,hcheck,hrest⟩
    · obtain ⟨-,rfl⟩ := run_ofExcept_eq_iff.mp hcheck
      rfl
    obtain ⟨-,rfl⟩ := run_ofExcept_eq_iff.mp hcheck
    rcases run_bind_eq_error_iff.mp hrest with hmake | ⟨_,_,hmake,hrest⟩
    · rw [makeDirectories_error hmake]
    obtain ⟨made,hmade,rfl⟩ := makeDirectories_eq_ok_iff.mp hmake
    rcases run_bind_eq_error_iff.mp hrest with hwrite | ⟨_,_,_,hrest⟩
    · rw [writeFile_error hwrite]
      exact Files.stored?_makeDirectories hmade l
    · simp at hrest

/-- After a program was provided, it stands at its path with its digest, and all other files are
what they were. -/
theorem Provides.stored (h : Provides w directory build st last) :
    ∃ l program executable, last.files.locate (Path.join directory build.path) = .ok l ∧
      last.files.stored? l = some (program, executable) ∧
      Build.Identifies build.keccak256 program.bytes ∧
      ∀ k : Location, k.text ≠ l.text → last.files.stored? k = st.files.stored? k := by
  cases h with
  | cached holds =>
    obtain ⟨program,executable,hstored,digest⟩ := holds
    obtain ⟨l,hl,hfile⟩ := Files.exists_locate_of_fileAt? hstored
    exact ⟨l,_,_,hl,hfile,digest,fun _ _ => rfl⟩
  | fetched _ _ _ _ digest directories write =>
    obtain ⟨l,-,hl,hfile,hothers⟩ := Files.stored?_write write
    exact ⟨l,_,_,hl,hfile,digest,fun k hk =>
      (hothers k hk).trans (Files.stored?_makeDirectories directories k)⟩

theorem Provides.identifies (h : Provides w directory build st last) {program : Blob}
    {executable : Bool}
    (hfile : last.files.fileAt? (Path.join directory build.path) = some (program, executable)) :
    Build.Identifies build.keccak256 program.bytes := by
  obtain ⟨l,other,_,hl,hstored,hdigest,-⟩ := h.stored
  have hsame := hfile.symm.trans ((Files.fileAt?_of_locate hl).trans hstored)
  obtain ⟨rfl,-⟩ := Prod.mk.inj (Option.some.inj hsame)
  exact hdigest

/-! ## Uses of a directory -/

/-- What is done with the compilers of a directory. Between uses the files may change at will. -/
inductive Use where
  | lookUp (version : String) (answer : Except Failure Build)
  | ensure (build : Build) (answer : Except Failure String)
  | compile (path : String) (input : CompilerInput) (answer : Except Failure Json)
  | outside (files : Files)

/-- A use takes one state to another and is answered as the world has it. -/
inductive Use.Leads (w : World) (directory : String) : State → Use → State → Prop
  | lookUp {st last : State} {version : String} {answer : Except Failure Build}
    (run : (buildOf version).run w st = (answer, last)) :
    Leads w directory st (.lookUp version answer) last
  | ensure {st last : State} {build : Build} {answer : Except Failure String}
    (run : (Compiler.ensure directory build).run w st = (answer, last)) :
    Leads w directory st (.ensure build answer) last
  | compile {st last : State} {path : String} {input : CompilerInput}
    {answer : Except Failure Json} (run : (Compiler.compile path input).run w st = (answer, last)) :
    Leads w directory st (.compile path input answer) last
  | outside (st : State) (files : Files) :
    Leads w directory st (.outside files) { st with files }

/-- Uses one after the other, each with the states before and after it. -/
inductive Uses (w : World) (directory : String) : State → List (State × Use × State) → State → Prop
  | nil (st : State) : Uses w directory st [] st
  | cons {st next last : State} {use : Use} {rest : List (State × Use × State)}
    (head : use.Leads w directory st next) (tail : Uses w directory next rest last) :
    Uses w directory st ((st, use, next) :: rest) last

variable {steps : List (State × Use × State)}

/-- In every sequence of uses, whatever happens to the files between them, a compiler's path is
handed out only while a program with the digest of the build stands there, and no other file was
touched for it. Where getting a compiler fails, no file has changed. -/
theorem Uses.provided_or_unchanged (h : Uses w directory st steps last) {build : Build}
    {answer : Except Failure String} {before after : State}
    (hstep : (before, Use.ensure build answer, after) ∈ steps) :
    (∀ path, answer = .ok path → path = Path.join directory build.path ∧
      ∃ l program executable, after.files.locate path = .ok l ∧
        after.files.stored? l = some (program, executable) ∧
        Build.Identifies build.keccak256 program.bytes ∧
        ∀ k : Location, k.text ≠ l.text → after.files.stored? k = before.files.stored? k) ∧
    (∀ e, answer = .error e → ∀ l, after.files.stored? l = before.files.stored? l) := by
  induction h with
  | nil => simp at hstep
  | cons head _ ih =>
    rcases List.mem_cons.mp hstep with hfirst | hlater
    · cases hfirst
      cases head with
      | ensure run =>
        constructor
        · rintro path rfl
          obtain ⟨rfl,hprovides⟩ := ensure_eq_ok_iff.mp run
          exact ⟨rfl,hprovides.stored⟩
        · rintro e rfl
          exact stored?_of_ensure_error run
    · exact ih hlater

/-- A program, which is no text. -/
def sampleProgram : Blob := ⟨[0x7F, 0x45, 0x4C, 0x46, 0xFF]⟩

/-- The build of that program. -/
def sample : Build where
  path := "solc"
  version := "0.8.9"
  longVersion := "0.8.9"
  keccak256 := "0x4537C7959B28BE9E9D1D4573E8DF7D845A7B97BF51D5C41B97510D5272D41325"
  sha256 := ""

/-- A world that publishes that program. -/
def publishing : World := .answering fun _ => some ⟨200, sampleProgram⟩

/-- A state with a file at a path, and with the directories that lead to it. -/
def standing (path : String) (contents : Blob) : State where
  files := Files.seed {} path contents

theorem identifies_sample : Build.Identifies sample.keccak256 sampleProgram.bytes :=
  Build.hasDigest_iff.mp (by decide +kernel)

theorem not_identifies_sample : ¬Build.Identifies sample.keccak256 (Blob.ofText "junk").bytes :=
  mt Build.hasDigest_iff.mpr (by decide +kernel)

/-- A program that was tampered with is fetched anew. -/
theorem Uses.provided_or_unchanged_tampered : ∃ after,
    Uses publishing "cache" {}
      [({}, .outside (standing "cache/solc" "junk").files, standing "cache/solc" "junk"),
        (standing "cache/solc" "junk", .ensure sample (.ok "cache/solc"), after)] after ∧
    ∃ l program executable, after.files.locate "cache/solc" = .ok l ∧
      after.files.stored? l = some (program, executable) ∧
      Build.Identifies sample.keccak256 program.bytes := by
  have hmade : (standing "cache/solc" "junk").files.makeDirectories? "cache" =
      some (standing "cache/solc" "junk").files := by decide +kernel
  have hwritten : (standing "cache/solc" "junk").files.write? "cache/solc" sampleProgram true =
      some ((standing "cache/solc" "junk").files.put ["cache", "solc"]
        (.file sampleProgram true)) := by
    decide +kernel
  have hfetched : Provides publishing "cache" sample (standing "cache/solc" "junk") _ :=
    .fetched (.inr ⟨"junk",false,by decide +kernel,not_identifies_sample⟩) (by decide +kernel) rfl
      (by decide) identifies_sample hmade hwritten
  have huses := Uses.cons (.outside {} (standing "cache/solc" "junk").files)
    (.cons (.ensure (ensure_eq_ok_iff.mpr ⟨rfl,hfetched⟩)) (.nil _))
  obtain ⟨-,l,program,executable,hl,hfile,hdigest,-⟩ :=
    (huses.provided_or_unchanged (List.mem_cons_of_mem _ List.mem_cons_self)).1 _ rfl
  exact ⟨_,huses,l,program,executable,hl,hfile,hdigest⟩

end Compiler

end DeployCheck
