import DeployCheck.Proofs.Compiler.Compilation
import DeployCheck.Proofs.Json.Reading
import DeployCheck.Proofs.Text.Blob

/-! Errors that a compiler reports. Where every error has a text, an output with an error is
refused. An error without one does not count, and the output passes. -/
namespace DeployCheck

lemma Json.asString?_eq_some_iff {j : Json} {text : String} :
    j.asString? = some text ↔ j = .str text := by
  cases j <;> simp [asString?]

namespace Compiler

open DeployCheck.Action

/-- An entry stands in the list of errors of an output. -/
def Reports (output entry : Json) : Prop :=
  ∃ entries, output.get? "errors" = some (.arr entries) ∧ entry ∈ entries

def IsError (entry : Json) : Prop := entry.string? "severity" = some "error"

/-- The text of an entry: its formatted message or, where it has no such member, its message. -/
inductive Says (entry : Json) (text : String) : Prop
  | formatted (message : entry.get? "formattedMessage" = some (.str text))
  | plain (unformatted : entry.get? "formattedMessage" = none)
    (message : entry.get? "message" = some (.str text))

variable {entry output : Json} {text : String}

lemma errorText?_eq_some_iff : errorText? entry = some text ↔ IsError entry ∧ Says entry text := by
  rw [errorText?, Option.ite_none_right_eq_some]
  refine and_congr_right fun _ => ?_
  simp only [Option.bind_eq_some_iff, Json.asString?_eq_some_iff, exists_eq_right]
  constructor
  · intro h
    cases hformatted : entry.get? "formattedMessage" with
    | none => exact .plain hformatted (by simpa [hformatted] using h)
    | some j => exact .formatted (by simpa [hformatted] using h)
  · rintro (h | ⟨hnone,h⟩)
    · rw [h, Option.some_or]
    · rw [hnone, Option.none_or, h]

lemma mem_errors_iff :
    entry ∈ ((output.get? "errors").bind Json.asArray?).getD [] ↔ Reports output entry := by
  unfold Reports
  cases output.get? "errors" with
  | none => simp
  | some errors => cases errors <;> simp [Json.asArray?]

lemma errorTexts_eq_nil_iff : errorTexts output = [] ↔
    ∀ entry, Reports output entry → IsError entry → ∀ text, ¬Says entry text := by
  rw [errorTexts, List.filterMap_eq_nil_iff]
  simp only [mem_errors_iff, Option.eq_none_iff_forall_ne_some, Ne, errorText?_eq_some_iff, not_and]
  exact forall₂_congr fun _ _ => forall_comm

variable {w : World} {st : State} {path : String} {program : Blob} {input : CompilerInput}

/-- The output of a compiler that can be run is handed on exactly if nothing keeps the compiler from
ending, it ends well, its output is JSON, and no error in it has a text. If all errors have one, then
an output is handed on exactly if it reports no error; whatever else is reported does not matter. -/
theorem compile_eq_ok_iff_of_runnable (h : Runnable st.files path program) (output : Json) :
    (((compile path input).run w st).1 = .ok output ↔
      w.obstacle program input = none ∧ (w.compiler program input).status = 0 ∧
      (w.compiler program input).output.json? = some output ∧
      ∀ entry, Reports output entry → IsError entry → ∀ text, ¬Says entry text) ∧
    ((∀ entry, Reports output entry → IsError entry → ∃ text, Says entry text) →
      (((compile path input).run w st).1 = .ok output ↔
        w.obstacle program input = none ∧ (w.compiler program input).status = 0 ∧
        (w.compiler program input).output.json? = some output ∧
        ∀ entry, Reports output entry → ¬IsError entry)) := by
  rw [run_compile_of_runnable h]
  simp only [answer_eq_ok_iff, reading_eq_ok_iff, errorTexts_eq_nil_iff, true_and]
  intro htexts
  refine and_congr_right fun _ => and_congr_right fun _ => and_congr_right fun _ =>
    forall₂_congr fun entry hreports => ?_
  constructor
  · intro hsilent herror
    obtain ⟨text,htext⟩ := htexts entry hreports herror
    exact hsilent herror text htext
  · intro hno herror
    exact absurd herror hno

/-! ## Outputs with one entry -/

/-- An entry with a severity, and with a message that may be no text. -/
def entryOf (severity : String) (message : Json) : Json :=
  .obj [("severity", .str severity), ("message", message)]

def reporting (entry : Json) : Json := .obj [("errors", .arr [entry])]

/-- A world whose compiler ends well with the output that reports an entry. -/
def endingWith (entry : Json) : World :=
  { publishing with compiler := fun _ _ => ⟨0, (reporting entry).compact, ""⟩ }

lemma compiler_endingWith (entry : Json) : (endingWith entry).compiler program input =
    ⟨0, (reporting entry).compact, ""⟩ := rfl

/-- A state with a compiler that can be run. -/
def installed : State where
  files := ⟨[("cache", .directory), ("cache/solc", .file sampleProgram true)]⟩

lemma runnable_installed : Runnable installed.files "cache/solc" sampleProgram :=
  ⟨by decide,by decide +kernel⟩

lemma reports_reporting_iff {other : Json} : Reports (reporting entry) other ↔ other = entry := by
  simp [Reports, reporting, Json.get?, Json.lookup]

lemma isError_entryOf_iff {severity : String} {message : Json} :
    IsError (entryOf severity message) ↔ severity = "error" := by
  simp [IsError, entryOf, Json.string?, Json.get?, Json.lookup, Json.asString?]

lemma says_entryOf_iff {severity : String} {message : Json} :
    Says (entryOf severity message) text ↔ message = .str text := by
  constructor
  · rintro (h | ⟨-,h⟩)
    · cases h
    · exact Option.some.inj h
  · rintro rfl
    exact .plain rfl rfl

lemma json?_reporting (severity : String) {message : Json} (h : message.Exact)
    (hflat : message.depth = 0) :
    (Blob.ofText (reporting (entryOf severity message)).compact).json? =
      some (reporting (entryOf severity message)) := by
  rw [Blob.json?, Blob.text?_ofText, Option.bind_some]
  refine Json.Exact.parse?_compact (.obj (List.nodup_singleton _) (List.forall_mem_singleton.mpr
    (.arr (List.forall_mem_singleton.mpr (.obj (by simp) ?_))))) ?_
  · exact List.forall_mem_cons.mpr ⟨.str _,List.forall_mem_singleton.mpr h⟩
  · simp [reporting, entryOf, Json.depth, Json.depthMembers, Json.depthItems, hflat]

/-- A warning without a text passes, and an error with one does not. -/
theorem compile_eq_ok_iff_of_runnable_warning :
    ((compile "cache/solc" ⟨"Solidity", [], .null⟩).run (endingWith (entryOf "warning" .null))
      installed).1 = .ok (reporting (entryOf "warning" .null)) ∧
    ((compile "cache/solc" ⟨"Solidity", [], .null⟩).run (endingWith (entryOf "error" (.str "m")))
      installed).1 ≠ .ok (reporting (entryOf "error" (.str "m"))) := by
  constructor
  · rw [(compile_eq_ok_iff_of_runnable runnable_installed _).1, compiler_endingWith]
    refine ⟨rfl,rfl,json?_reporting "warning" .null rfl,fun entry hreports herror => ?_⟩
    rw [reports_reporting_iff.mp hreports, isError_entryOf_iff] at herror
    exact absurd herror (by decide)
  · have htexts : ∀ entry, Reports (reporting (entryOf "error" (.str "m"))) entry → IsError entry →
        ∃ text, Says entry text := by
      intro entry hreports _
      rw [reports_reporting_iff.mp hreports]
      exact ⟨"m",says_entryOf_iff.mpr rfl⟩
    rw [Ne, (compile_eq_ok_iff_of_runnable runnable_installed _).2 htexts]
    rintro ⟨-,-,-,hno⟩
    exact hno _ (reports_reporting_iff.mpr rfl) (isError_entryOf_iff.mpr rfl)

/-- An error without a text passes. -/
theorem compile_passes_silent_error : ¬∀ (w : World) (st : State) (path : String) (program : Blob)
    (input : CompilerInput) (output : Json), Runnable st.files path program →
    w.obstacle program input = none →
    (((compile path input).run w st).1 = .ok output ↔
      (w.compiler program input).status = 0 ∧
      (w.compiler program input).output.json? = some output ∧
      ∀ entry, Reports output entry → ¬IsError entry) := by
  intro h
  have hpasses : ((compile "cache/solc" ⟨"Solidity", [], .null⟩).run
      (endingWith (entryOf "error" .null)) installed).1 = .ok (reporting (entryOf "error" .null)) := by
    rw [run_compile_of_runnable runnable_installed, answer_of_free rfl, compiler_endingWith,
      reading_eq_ok_iff, errorTexts_eq_nil_iff]
    refine ⟨rfl,json?_reporting "error" .null rfl,fun entry hreports _ text htext => ?_⟩
    rw [reports_reporting_iff.mp hreports, says_entryOf_iff] at htext
    cases htext
  rw [h _ _ _ _ _ _ runnable_installed rfl] at hpasses
  exact hpasses.2.2 _ (reports_reporting_iff.mpr rfl) (isError_entryOf_iff.mpr rfl)

end Compiler

end DeployCheck
