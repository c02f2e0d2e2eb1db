import DeployCheck.Calldata
import DeployCheck.Proofs.Json.Maps
import DeployCheck.Proofs.Result
import DeployCheck.Proofs.Text.HexGrammar

/-! Constructor data in its two forms. A constructor with inputs needs exactly one of them, and both
stand for the same bytes: raw data for the bytes that it is written from, arguments for their
encoding. -/
namespace DeployCheck

open Json

namespace Abi

def IsConstructor (entry : Json) : Prop := entry.string? "type" = some "constructor"

/-- The first constructor that an ABI lists. -/
def FirstConstructor (abi entry : Json) : Prop :=
  IsConstructor entry ∧ ∃ earlier later, abi = .arr (earlier ++ entry :: later) ∧
    ∀ e ∈ earlier, ¬IsConstructor e

/-- An ABI has no constructor, or its first one has no inputs. -/
def TakesNothing (abi : Json) : Prop :=
  ∀ entry, FirstConstructor abi entry →
    entry.get? "inputs" = none ∨ entry.get? "inputs" = some (.arr [])

/-- The first constructor of an ABI has inputs, and they are read as these parameters. -/
def Takes (abi : Json) (inputs : List Param) : Prop :=
  inputs ≠ [] ∧ ∃ entry listed, FirstConstructor abi entry ∧ entry.get? "inputs" = some listed ∧
    Param.listOfJson listed = some inputs

variable {abi entry : Json} {inputs : List Param}

lemma firstConstructor_iff :
    FirstConstructor abi entry ↔ constructorEntry? abi = some entry := by
  cases abi with
  | arr items =>
    simp only [asArray?, constructorEntry?, Option.getD_some, List.find?_eq_some_iff_append,
      FirstConstructor, IsConstructor, arr.injEq, beq_iff_eq, Bool.not_eq_true',
      beq_eq_false_iff_ne, Ne]
  | _ => simp [asArray?, constructorEntry?, FirstConstructor]

lemma FirstConstructor.unique {other : Json} (h : FirstConstructor abi entry)
    (k : FirstConstructor abi other) : entry = other :=
  Option.some.inj ((firstConstructor_iff.mp h).symm.trans (firstConstructor_iff.mp k))

lemma listOfJson_eq_nil_iff {listed : Json} :
    Param.listOfJson listed = some [] ↔ listed = .arr [] := by
  cases listed with
  | arr items => cases items <;> simp [Param.listOfJson, listOf, asArray?, Option.bind_eq_some_iff]
  | _ => simp [Param.listOfJson, listOf, asArray?]

lemma constructorInputs?_eq_some_none_iff :
    constructorInputs? abi = some none ↔ TakesNothing abi := by
  cases hentry : constructorEntry? abi with
  | none =>
    have hnothing : TakesNothing abi := by
      intro e he
      rw [firstConstructor_iff.mp he] at hentry
      cases hentry
    simp [constructorInputs?, hentry, hnothing]
  | some entry =>
    have hfirst := firstConstructor_iff.mpr hentry
    have honly : TakesNothing abi ↔
        entry.get? "inputs" = none ∨ entry.get? "inputs" = some (.arr []) :=
      ⟨fun h => h entry hfirst,fun h e he => he.unique hfirst ▸ h⟩
    rw [honly]
    cases hinputs : entry.get? "inputs" with
    | none => simp [constructorInputs?, hentry, hinputs]
    | some listed =>
      simp [constructorInputs?, hentry, hinputs, ← listOfJson_eq_nil_iff]

lemma constructorInputs?_eq_some_some_iff :
    constructorInputs? abi = some (some inputs) ↔ Takes abi inputs := by
  cases hentry : constructorEntry? abi with
  | none =>
    simp [constructorInputs?, hentry, Takes, firstConstructor_iff]
  | some entry =>
    cases hinputs : entry.get? "inputs" with
    | none =>
      simp [constructorInputs?, hentry, hinputs, Takes, firstConstructor_iff]
    | some listed =>
      simp [constructorInputs?, hentry, hinputs, Takes, firstConstructor_iff, and_comm]

end Abi

/-! ## The two forms -/

/-- The text that the settings give for the constructor data of an address. -/
def dataFor (address : String) (settings : Option BytecodeSettings) : Option String :=
  settings.bind fun s => lookup address s.calldata

/-- The constructor arguments that the settings give for an address. -/
def argumentsFor (address : String) (settings : Option BytecodeSettings) : Option (List Json) :=
  settings.bind fun s => lookup address s.arguments

section Forms
variable {address : String} {abi : Json} {settings : Option BytecodeSettings}
  {inputs : List Abi.Param}

lemma constructorData_of_takesNothing (h : Abi.TakesNothing abi) :
    constructorData address abi settings = .ok none := by
  simp only [constructorData, Abi.constructorInputs?_eq_some_none_iff.mpr h]

/-- What a constructor with inputs comes to, by the forms of its data that are given. -/
lemma constructorData_cases (address : String) (settings : Option BytecodeSettings)
    (h : Abi.Takes abi inputs) :
    (∃ text args, dataFor address settings = some text ∧ argumentsFor address settings = some args ∧
      constructorData address abi settings = .error (.calldata (.givenTwice address))) ∨
    (dataFor address settings = none ∧ argumentsFor address settings = none ∧
      constructorData address abi settings = .error (.calldata (.notGiven address))) ∨
    (∃ text, dataFor address settings = some text ∧ argumentsFor address settings = none ∧
      constructorData address abi settings = ((Text.Hex.read text).mapError .decode).map some) ∨
    ∃ args, dataFor address settings = none ∧ argumentsFor address settings = some args ∧
      constructorData address abi settings = match Abi.encodeArguments inputs args with
        | .error e => .error (.encode e)
        | .ok [] => .error (.calldata .empty)
        | .ok bs => .ok (some bs) := by
  have hinputs := Abi.constructorInputs?_eq_some_some_iff.mpr h
  unfold dataFor argumentsFor constructorData
  simp only [hinputs]
  cases settings.bind fun s => lookup address s.calldata with
  | none =>
    cases settings.bind fun s => lookup address s.arguments with
    | none => exact .inr (.inl ⟨rfl,rfl,rfl⟩)
    | some args => exact .inr (.inr (.inr ⟨args,rfl,rfl,rfl⟩))
  | some text =>
    cases settings.bind fun s => lookup address s.arguments with
    | none =>
      refine .inr (.inr (.inl ⟨text,rfl,rfl,?_⟩))
      dsimp only
      cases Text.Hex.read text <;> rfl
    | some args => exact .inl ⟨text,args,rfl,rfl,rfl⟩

lemma constructorData_ne_none (h : Abi.Takes abi inputs) :
    constructorData address abi settings ≠ .ok none := by
  obtain ⟨_,_,-,-,hresult⟩ | ⟨-,-,hresult⟩ | ⟨text,-,-,hresult⟩ | ⟨args,-,-,hresult⟩ :=
    constructorData_cases address settings h
  · simp [hresult]
  · simp [hresult]
  · rw [hresult]
    cases Text.Hex.read text <;> simp [Except.mapError, Except.map]
  · rw [hresult]
    split <;> simp

lemma constructorData_eq_none_iff :
    constructorData address abi settings = .ok none ↔ Abi.TakesNothing abi := by
  refine ⟨fun h => ?_,constructorData_of_takesNothing⟩
  cases hinputs : Abi.constructorInputs? abi with
  | none => simp [constructorData, hinputs] at h
  | some taken =>
    cases taken with
    | none => exact Abi.constructorInputs?_eq_some_none_iff.mp hinputs
    | some inputs =>
      exact absurd h (constructorData_ne_none (Abi.constructorInputs?_eq_some_some_iff.mp hinputs))

/-- A constructor without inputs has no data, whatever the settings give. Any other needs exactly
one form of its data: bytes are the data exactly if that form writes them, or encodes to them and
they are not empty. -/
theorem constructorData_in_one_form (address : String) (abi : Json)
    (settings : Option BytecodeSettings) :
    (constructorData address abi settings = .ok none ↔ Abi.TakesNothing abi) ∧
    ∀ inputs, Abi.Takes abi inputs →
      (constructorData address abi settings = .error (.calldata (.givenTwice address)) ↔
        ∃ text args, dataFor address settings = some text ∧
          argumentsFor address settings = some args) ∧
      (constructorData address abi settings = .error (.calldata (.notGiven address)) ↔
        dataFor address settings = none ∧ argumentsFor address settings = none) ∧
      (constructorData address abi settings = .error (.calldata .empty) ↔
        ∃ args, dataFor address settings = none ∧ argumentsFor address settings = some args ∧
          Abi.encodeArguments inputs args = .ok []) ∧
      (∀ e, constructorData address abi settings = .error (.encode e) ↔
        ∃ args, dataFor address settings = none ∧ argumentsFor address settings = some args ∧
          Abi.encodeArguments inputs args = .error e) ∧
      ∀ bs, constructorData address abi settings = .ok (some bs) ↔
        (∃ text, dataFor address settings = some text ∧ argumentsFor address settings = none ∧
          Text.Hex.Writes bs text.toList) ∨
        ∃ args, dataFor address settings = none ∧ argumentsFor address settings = some args ∧
          Abi.encodeArguments inputs args = .ok bs ∧ bs ≠ [] := by
  refine ⟨constructorData_eq_none_iff,fun inputs h => ?_⟩
  obtain ⟨text,args,hdata,hargs,hresult⟩ | ⟨hdata,hargs,hresult⟩ | ⟨text,hdata,hargs,hresult⟩ |
    ⟨args,hdata,hargs,hresult⟩ := constructorData_cases address settings h
  · simp [hdata, hargs, hresult]
  · simp [hdata, hargs, hresult]
  · have hwrites : ∀ bs, Text.Hex.Writes bs text.toList ↔ Text.Hex.read text = .ok bs :=
      fun bs => by rw [Text.Hex.read_eq_ok_iff, Text.Hex.writes_iff]
    cases hread : Text.Hex.read text <;>
      simp [hdata, hargs, hresult, hread, hwrites, Except.mapError, Except.map]
  · rw [hresult]
    cases hencode : Abi.encodeArguments inputs args with
    | error e => simp [hdata, hargs, hencode]
    | ok bs => cases bs <;> simp [hdata, hargs, hencode]

/-- Raw data and arguments for the same bytes. -/
theorem constructorData_in_one_form_number :
    let abi := Json.arr [.obj [("type",.str "constructor"),
      ("inputs",.arr [.obj [("name",.str "n"), ("type",.str "uint8")]])]]
    Abi.Takes abi [⟨"n","uint8",[]⟩] ∧
      constructorData "a" abi (some ⟨none,[("a","0x" ++ "".pushn '0' 62 ++ "fA")],[]⟩) =
        .ok (some (.replicate 31 0 ++ [0xfa])) ∧
      constructorData "a" abi (some ⟨none,[],[("a",[.int 250])]⟩) =
        .ok (some (.replicate 31 0 ++ [0xfa])) := by
  intro abi
  have htakes : Abi.Takes abi [⟨"n","uint8",[]⟩] :=
    Abi.constructorInputs?_eq_some_some_iff.mp rfl
  have hwrites : Text.Hex.Writes (.replicate 31 0 ++ [0xfa])
      ("0x" ++ "".pushn '0' 62 ++ "fA").toList := Text.Hex.writes_iff.mpr (by decide +kernel)
  have hencode : Abi.encodeArguments [⟨"n","uint8",[]⟩] [.int 250] =
      .ok (.replicate 31 0 ++ [0xfa]) := Result.eq_ok_of_toOption (by decide +kernel)
  obtain ⟨-,-,-,-,hraw⟩ := (constructorData_in_one_form "a" abi
    (some ⟨none,[("a","0x" ++ "".pushn '0' 62 ++ "fA")],[]⟩)).2 _ htakes
  obtain ⟨-,-,-,-,hargs⟩ := (constructorData_in_one_form "a" abi
    (some ⟨none,[],[("a",[.int 250])]⟩)).2 _ htakes
  exact ⟨htakes,(hraw _).mpr (.inl ⟨_,rfl,rfl,hwrites⟩),
    (hargs _).mpr (.inr ⟨_,rfl,rfl,hencode,by simp⟩)⟩

end Forms

end DeployCheck
