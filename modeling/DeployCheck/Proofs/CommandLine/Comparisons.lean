import DeployCheck.Proofs.Bytecode.Independence
import DeployCheck.Proofs.CommandLine.Arguments
import DeployCheck.Proofs.CommandLine.Runs
import DeployCheck.Proofs.Text.Shown

/-! Comparisons at the command line. The command compares the texts that its arguments give, whether
they stand there or in files, and whatever it shows it ends as the bare comparison does: with
success, or with the same message. -/
namespace DeployCheck.CommandLine

open DeployCheck.Action Bytecode

/-! ## What arguments give -/

/-- An argument gives a text: the argument itself, or the file that it names behind an `@`. -/
inductive Gives (fs : Files) : String → String → Prop
  | inline {text : String} (bare : ∀ path, text ≠ "@" ++ path) : Gives fs text text
  | file {path text : String} (reads : fs.read? path = some text) : Gives fs ("@" ++ path) text

/-- The slots that a comparison is given: none, or those of a report. -/
inductive GivesSlots (fs : Files) : Option String → Immutables → Prop
  | none : GivesSlots fs none []
  | report {arg text : String} {report : Json} (gives : Gives fs arg text)
    (parses : Json.parse? text = some report) : GivesSlots fs (some arg) (.ofReport report)

/-- The arguments of a comparison give two codes and the slots of the expected one. -/
structure CompareArguments.Give (args : CompareArguments) (fs : Files) (refs : Immutables)
    (actual expected : String) : Prop where
  actual : Gives fs args.actual actual
  expected : Gives fs args.expected expected
  slots : GivesSlots fs args.immutables refs

variable {w : World} {st last : State}

lemma run_readText {arg text : String} (h : Gives st.files arg text) :
    (readText arg).run w st = (.ok text, st) := by
  unfold readText
  cases h with
  | inline bare =>
    rw [Text.textAfter?_eq_none_iff.mpr bare]
    rfl
  | @file path _ reads =>
    rw [Text.textAfter?_eq_some_iff.mpr rfl]
    dsimp only
    rw [run_bind, run_files]
    dsimp only
    rw [reads]
    rfl

lemma run_readJson {arg text : String} {j : Json} (h : Gives st.files arg text)
    (hparse : Json.parse? text = some j) : (readJson arg).run w st = (.ok j, st) := by
  unfold readJson
  rw [run_bind, run_readText h]
  dsimp only
  rw [hparse]
  rfl

lemma run_immutables {arg : Option String} {refs : Immutables} (h : GivesSlots st.files arg refs) :
    (immutables arg).run w st = (.ok refs, st) := by
  cases h with
  | none => rfl
  | report gives parses =>
    unfold immutables
    dsimp only
    rw [run_bind, run_readJson gives parses]
    rfl

/-! ## The command -/

/-- A state with further lines printed. -/
def printed (st : State) (lines : List String) : State :=
  { st with printed := st.printed ++ lines }

lemma run_printAll (lines : List String) (w : World) (st : State) :
    (printAll lines).run w st = (.ok (), printed st lines) := by
  unfold printAll
  induction lines generalizing st with
  | nil => simp [printed]
  | cons line lines ih =>
    change (print line >>= fun _ => lines.forM print).run w st = _
    rw [run_bind]
    change (lines.forM print).run w (printed st [line]) = _
    rw [ih]
    simp [printed]

/-- What is recorded of a comparison: that its literals differ, if they do. -/
def literalEvents (c : Comparison) : List Event :=
  if c.literalMismatch then [Verification.literalEvent c] else []

lemma run_evaluate (context : Nat) (refs : Immutables) (actual expected : String) (w : World)
    (st : State) : (Verification.evaluate context refs actual expected).run w st =
      match evaluate context refs actual expected with
      | .ok c => (.ok c, noted st (literalEvents c))
      | .error e => (.error e, st) := by
  unfold Verification.evaluate
  rw [run_bind, run_ofExcept]
  rcases evaluate context refs actual expected with e | c
  · rfl
  · dsimp only
    unfold literalEvents
    cases c.literalMismatch
    · simp [noted]
    · rfl

/-- Whether differences are shown in colour. -/
def CompareArguments.color (args : CompareArguments) (w : World) : Bool :=
  !args.noColor && w.isTerminal

lemma run_compare {args : CompareArguments} {refs : Immutables} {actual expected : String}
    (h : args.Give st.files refs actual expected) :
    (compare args).run w st = match evaluate args.context refs actual expected with
      | .error e => (.error (.comparison e), st)
      | .ok c =>
        let shown := printed (noted st (literalEvents c)) (c.diffText? (args.color w)).toList
        match c.result with
        | .error e => (.error (.comparison e), shown)
        | .ok v => (.ok (), printed shown [verdictText v]) := by
  unfold compare
  rw [run_bind, run_readText h.actual]
  dsimp only
  rw [run_bind, run_readText h.expected]
  dsimp only
  rw [run_bind, run_immutables h.slots]
  dsimp only
  rw [run_bind, run_mapFailure, run_evaluate, evaluate_stripped]
  rcases evaluate args.context refs actual expected with e | c
  · rfl
  · dsimp only [Except.mapError]
    rw [run_bind, run_read]
    dsimp only
    rw [run_bind, run_printAll]
    dsimp only
    rw [run_bind, run_ofExcept]
    rcases c.result with e | v
    · rfl
    · rfl

/-- The command ends as the bare comparison does, whatever the context and the colour are. -/
lemma status_compare {args : CompareArguments} {refs : Immutables} {actual expected : String}
    (h : args.Give st.files refs actual expected) :
    match Bytecode.compare refs actual expected with
    | .ok _ => ∃ last, (Command.compare args).status.run w st = (.ok .success, last)
    | .error e => ∃ reached, (Command.compare args).status.run w st =
        (.ok .failure, noted reached [⟨e.message, []⟩]) := by
  rw [compare_eq_result args.context]
  have hrun : (Command.compare args).execute.run w st = _ := run_compare h
  rcases hcompared : evaluate args.context refs actual expected with e | c
  · rw [hcompared] at hrun
    exact ⟨st,status_of_error rfl hrun⟩
  · rw [hcompared] at hrun
    dsimp only at hrun
    change match c.result with | .ok _ => _ | .error e => _
    rcases hresult : c.result with e | v
    · rw [hresult] at hrun
      exact ⟨_,status_of_error rfl hrun⟩
    · rw [hresult] at hrun
      exact ⟨_,status_eq_success_iff.mpr ⟨st,rfl,hrun⟩⟩

lemma run_program {words : List String} {c : Command} (h : Command.parse words = .ok c) (w : World)
    (st : State) : (program words).run w st = c.status.run w st := by
  rw [program, h]

/-- Codes have one comparison. Its context matters to the listing alone, its bare form gives what
it amounts to, and the program succeeds on arguments that give the same codes and slots exactly if
that is a verdict and else fails with the message. -/
theorem comparisons_agree (refs : Immutables) (actual expected : String) :
    (∀ k₁ k₂, AgreeButListing (evaluate k₁ refs actual expected)
      (evaluate k₂ refs actual expected)) ∧
    (∀ k, Bytecode.compare refs actual expected =
      evaluate k refs actual expected >>= Comparison.result) ∧
    ∀ args : CompareArguments,
      (∀ (w : World) (st : State) (words : List String), Command.parse words = .ok (.compare args) →
        args.Give st.files refs actual expected →
        ((∃ last, (program words).run w st = (.ok .success, last)) ↔
          ∃ v, Bytecode.compare refs actual expected = .ok v) ∧
        ∀ e, Bytecode.compare refs actual expected = .error e → ∃ reached,
          (program words).run w st = (.ok .failure, noted reached [⟨e.message, []⟩]) ∧
          Event.line ⟨e.message, []⟩ = e.message) ∧
      (args.Plain → Command.parse ("compare" :: args.words) = .ok (.compare args)) := by
  refine ⟨fun k₁ k₂ => agreeButListing_evaluate k₁ k₂ refs actual expected,
    fun k => compare_eq_result k refs actual expected,fun args => ⟨?_,CompareArguments.parse_words⟩⟩
  intro w st words hwords hgive
  rw [run_program hwords]
  have hstatus := status_compare (w := w) hgive
  rcases hresult : Bytecode.compare refs actual expected with e | v
  · rw [hresult] at hstatus
    obtain ⟨reached,hfails⟩ := hstatus
    refine ⟨by simp [hfails],?_⟩
    rintro _ ⟨⟩
    refine ⟨reached,hfails,?_⟩
    have hshown := Text.Terminal.text_eq_self (Text.Terminal.shown_compareError e)
    simp [Event.line, hshown]
  · rw [hresult] at hstatus
    exact ⟨⟨fun _ => ⟨v,rfl⟩,fun _ => hstatus⟩,nofun⟩

/-- A code in a file and another in the arguments, with a slot of a report. -/
theorem comparisons_agree_slot :
    let report := "\x7b\"7\":[\x7b\"start\":1,\"length\":1\x7d]\x7d"
    let args : CompareArguments := ⟨"@runtime.hex", "0x6002", some report, 0, true⟩
    let st : State := { files := ({} : Files).seed "runtime.hex" " 6001\n" }
    args.Plain ∧ args.Give st.files [(1,1)] " 6001\n" "0x6002" ∧
      ∀ w, ∃ last, (program ("compare" :: args.words)).run w st = (.ok .success, last) := by
  intro report args st
  obtain ⟨hruns,hreads⟩ := (comparisons_agree [(1,1)] " 6001\n" "0x6002").2.2 args
  have hplain : args.Plain := ⟨Text.textAfter?_eq_none_iff.mp (by decide),
    Text.textAfter?_eq_none_iff.mp (by decide),by decide⟩
  have hcode : st.files.read? "runtime.hex" = some " 6001\n" := by decide +kernel
  have hslots : GivesSlots st.files (some report) [(1,1)] := by
    have hread : (Json.parse? report).map Immutables.ofReport = some [(1,1)] := by decide +kernel
    obtain ⟨j,hparse,hj⟩ := Option.map_eq_some_iff.mp hread
    exact hj ▸ .report (.inline (Text.textAfter?_eq_none_iff.mp (by decide))) hparse
  have hgive : args.Give st.files [(1,1)] " 6001\n" "0x6002" :=
    ⟨.file hcode,.inline (Text.textAfter?_eq_none_iff.mp (by decide)),hslots⟩
  have hresult : Bytecode.compare [(1,1)] " 6001\n" "0x6002" = .ok .immutableOnly := by
    obtain ⟨diff,hc⟩ := exists_evaluate args.context [(1,1)]
      (rfl : Text.Hex.read " 6001\n" = .ok [0x60,1]) (rfl : Text.Hex.read "0x6002" = .ok [0x60,2])
    have honly : (comparisonOf [(1,1)] (Bytecode.trim [0x60,1])
        (Bytecode.trim [0x60,2]) none).result = .ok .immutableOnly := by decide +kernel
    rw [compare_eq_result args.context, hc]
    exact honly
  refine ⟨hplain,hgive,?_⟩
  intro w
  exact (hruns w st _ (hreads hplain) hgive).1.mpr ⟨_,hresult⟩

end DeployCheck.CommandLine
