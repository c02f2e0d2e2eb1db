import DeployCheck.Proofs.Json.Maps
import DeployCheck.Proofs.Source.Answers
import DeployCheck.Proofs.Source.Paths

/-! Settings of the sources that explorers report. All of them ask for the same outputs. Otherwise
they are those that the answer supplies, and where it supplies none, the optimizer and an EVM
version at most. -/
namespace DeployCheck

open Json

namespace Json

variable {α : Type}

lemma lookup_filter {p : String → Bool} {key : String} (h : p key = true)
    (m : List (String × α)) : lookup key (m.filter fun e => p e.1) = lookup key m := by
  induction m with
  | nil => rfl
  | cons e m ih =>
    by_cases hkey : e.1 = key
    · simp [lookup, hkey, h]
    · cases hp : p e.1 <;> simp [lookup, hp, hkey, ih]

/-- What begins with a brace is read as an object. -/
lemma exists_obj_of_parseAs? {shape : Shape} {cs : List Char} {j : Json}
    (h : parseAs? shape (String.ofList ('\x7b' :: cs)) = some j) : ∃ ms, j = .obj ms := by
  unfold parseAs? at h
  rw [String.toList_ofList] at h
  dsimp only at h
  split at h
  · next j' rest hvalue =>
    obtain rfl : j' = j := by
      split at h
      · exact Option.some.inj h
      · cases h
    have hbody : objectBody (('\x7b' :: cs).length + 1)
        (fun name => (shape.member? name).map (value (('\x7b' :: cs).length + 1) 126)) cs =
          some (j', rest) := hvalue
    unfold objectBody at hbody
    split at hbody
    · obtain ⟨rfl,-⟩ := Prod.mk.inj (Option.some.inj hbody)
      exact ⟨_,rfl⟩
    · obtain ⟨⟨ms,_⟩,-,hms⟩ := Option.map_eq_some_iff.mp hbody
      exact ⟨ms,(Prod.mk.inj hms).1.symm⟩
  · cases h

end Json

/-! ## Selection -/

namespace Settings

/-- Settings with our output selection that otherwise have the members given, with their values and
in order. -/
def Completes (given : List (String × Json)) (settings : Json) : Prop :=
  ∃ ms, settings = .obj ms ∧ lookup "outputSelection" ms = some outputSelection ∧
    ms.filter (fun m => m.1 != "outputSelection") =
      given.filter (fun m => m.1 != "outputSelection") ∧
    ((given.map Prod.fst).Nodup → (ms.map Prod.fst).Nodup)

/-- A version that says something: it is not empty, and it is not `default` in any letter case. -/
def IsVersion (version : String) : Prop :=
  version ≠ "" ∧ version.map Char.toLower ≠ "default"

/-- Whether to optimize, and for how many runs. -/
def optimizer (enabled : Bool) (runs : Nat) : String × Json :=
  ("optimizer", .obj [("enabled", .bool enabled), ("runs", .int runs)])

/-- The members that settings may have where none are supplied. -/
inductive Plain : List (String × Json) → Prop
  | empty : Plain []
  | optimizer (enabled : Bool) (runs : Nat) : Plain [Settings.optimizer enabled runs]
  | version (enabled : Bool) (runs : Nat) {version : String} (h : IsVersion version) :
    Plain [Settings.optimizer enabled runs, ("evmVersion", .str version)]

/-- Settings complete those that are supplied, or plain ones if none are. -/
def Follows (supplied : List (String × Json) → Prop) (settings : Json) : Prop :=
  ∃ given, Completes given settings ∧ (∀ other, supplied other → other = given) ∧
    ((∀ other, ¬supplied other) → Plain given)

lemma isNamedVersion_iff (version : String) :
    isNamedVersion version = true ↔ IsVersion version := by
  simp [isNamedVersion, IsVersion]

lemma completes_select (settings : Json) :
    Completes (settings.asObject?.getD []) (select settings) := by
  cases settings with
  | obj ms =>
    exact ⟨_,rfl,lookup_insert _ _ _,filter_insert _ _ _,fun keys => nodup_keys_insert keys _ _⟩
  | _ => exact ⟨_,rfl,rfl,rfl,fun _ => List.nodup_singleton _⟩

lemma follows_select {supplied : List (String × Json) → Prop} {settings : Json}
    (h : ∀ given, supplied given ↔ settings = .obj given) : Follows supplied (select settings) := by
  refine ⟨_,completes_select settings,fun other hother => ?_,fun hnone => ?_⟩
  · rw [(h other).mp hother]
    rfl
  · cases settings with
    | obj ms => exact absurd ((h ms).mpr rfl) (hnone ms)
    | _ => exact .empty

lemma follows_standard {supplied : List (String × Json) → Prop} (h : ∀ given, ¬supplied given)
    (optimize : Bool) (runs : Nat) (version : Option String) :
    Follows supplied (standard optimize runs version) := by
  have hstandard : ∃ given, Plain given ∧ Completes given (standard optimize runs version) := by
    unfold standard
    cases hversion : version.filter isNamedVersion with
    | none => exact ⟨_,.optimizer optimize runs,_,rfl,rfl,rfl,fun _ => by simp⟩
    | some v =>
      obtain ⟨-,hnamed⟩ := Option.filter_eq_some_iff.mp hversion
      exact ⟨_,.version optimize runs ((isNamedVersion_iff v).mp hnamed),_,rfl,rfl,rfl,
        fun _ => by simp⟩
  obtain ⟨given,hplain,hcompletes⟩ := hstandard
  exact ⟨given,hcompletes,fun other hother => absurd hother (h other),fun _ => hplain⟩

end Settings

/-! ## Answers -/

/-- Standard JSON gives settings that are an object, with these members. -/
def CompilerInput.GivesSettings (j : Json) (given : List (String × Json)) : Prop :=
  ∃ settings, j.get? "settings" = some settings ∧ settings.merged = .obj given

lemma CompilerInput.givesSettings_iff {ms given : List (String × Json)} {input : CompilerInput}
    (h : ofJson (.obj ms) = some input) :
    GivesSettings (.obj ms) given ↔ input.settings = .obj given := by
  simp only [ofJson, Option.bind_eq_bind, Option.bind_eq_some_iff, Option.pure_def] at h
  obtain ⟨fields,hfields,language,-,sources,-,settings,hsettings,h⟩ := h
  obtain rfl := Option.some.inj h
  obtain rfl : ms.filter (fun m => ["language", "sources", "settings"].contains m.1) = fields := by
    rw [fields?] at hfields
    split at hfields
    · exact Option.some.inj hfields
    · cases hfields
  rw [Fields.withDefault, lookup_filter (by decide)] at hsettings
  unfold GivesSettings
  cases hfound : lookup "settings" ms with
  | none =>
    obtain rfl : Json.null = settings := by simpa [hfound] using hsettings
    simp [get?, hfound]
  | some found =>
    obtain rfl : found.merged = settings := by simpa [hfound] using hsettings
    simp [get?, hfound]

namespace Explorer

open CompilerInput Settings

/-- An answer supplies settings, an object with the members `given`: in the standard JSON that its
source code is, between an extra pair of braces or as an object, or beside the files. -/
inductive Supplies : ExplorerKind → Json → List (String × Json) → Prop
  | code {kind : ExplorerKind} {body entry input : Json} {text : String} {inner : List Char}
      {given : List (String × Json)} (kinds : kind ∈ [.etherscan, .etherscanNoToken, .mantle])
      (first : IsFirst body entry) (code : entry.string? "SourceCode" = some text)
      (braces : text.toList = ['\x7b', '\x7b'] ++ inner ++ ['\x7d', '\x7d'])
      (reads : parseAs? shape (String.ofList ('\x7b' :: inner ++ ['\x7d'])) = some input)
      (gives : GivesSettings input given) : Supplies kind body given
  | beside {body : Json} {given : List (String × Json)}
      (settings : body.get? "compiler_settings" = some (.obj given)) :
    Supplies .blockscout body given
  | request {body asked input : Json} {given : List (String × Json)}
      (request : body.get? "request" = some asked)
      (source : asked.get? "sourceCode" = some input) (gives : GivesSettings input given) :
    Supplies .zksync body given

variable {kind : ExplorerKind} {body : Json} {source : VerifiedSource}

/-- Source code supplies what the text between its braces gives. -/
lemma supplies_code_iff {entry : Json} {text : String}
    (kinds : kind ∈ [.etherscan, .etherscanNoToken, .mantle]) (first : IsFirst body entry)
    (code : entry.string? "SourceCode" = some text) (given : List (String × Json)) :
    Supplies kind body given ↔
      ∃ inner input, doubleBraced? text = some inner ∧
        parseAs? shape (String.ofList ('\x7b' :: inner ++ ['\x7d'])) = some input ∧
        GivesSettings input given := by
  constructor
  · intro h
    cases h with
    | code _ hfirst hcode braces reads gives =>
      obtain rfl := first.unique hfirst
      obtain rfl := Option.some.inj (code.symm.trans hcode)
      exact ⟨_,_,doubleBraced?_eq_some_iff.mpr braces,reads,gives⟩
    | beside => simp at kinds
    | request => simp at kinds
  · rintro ⟨inner,input,braces,reads,gives⟩
    exact .code kinds first code (doubleBraced?_eq_some_iff.mp braces) reads gives

lemma follows_selected {ms : List (String × Json)} {read : CompilerInput}
    {supplied : List (String × Json) → Prop} (hread : ofJson (.obj ms) = some read)
    (h : ∀ given, supplied given ↔ GivesSettings (.obj ms) given) :
    Follows supplied (selected read).settings :=
  follows_select fun given => (h given).trans (givesSettings_iff hread)

lemma follows_parseEtherscan (kinds : kind ∈ [.etherscan, .etherscanNoToken, .mantle])
    (h : parseEtherscan body = .ok source) :
    Follows (Supplies kind body) source.input.settings := by
  obtain ⟨entry,text,hfirst,hcode,hinput⟩ := of_parseEtherscan h
  have hsupplies := supplies_code_iff kinds hfirst hcode
  unfold etherscanInput at hinput
  split at hinput
  · next inner hbraces =>
    obtain ⟨read,hread,hinput⟩ := Result.bind_eq_ok_iff.mp hinput
    obtain ⟨j,hparse,hj⟩ := Option.bind_eq_some_iff.mp (orSerialization_eq_ok_iff.mp hread)
    obtain ⟨ms,rfl⟩ := exists_obj_of_parseAs? hparse
    rw [← Except.ok.inj hinput]
    refine follows_selected hj fun given => ?_
    rw [hsupplies, hbraces]
    constructor
    · rintro ⟨_,_,hsame,hreads,hgives⟩
      obtain rfl := Option.some.inj hsame
      obtain rfl := Option.some.inj (hparse.symm.trans hreads)
      exact hgives
    · intro hgives
      exact ⟨_,_,rfl,hparse,hgives⟩
  · next hbraces =>
    have hsettings : source.input.settings = settingsOf entry := by
      dsimp only at hinput
      split at hinput
      all_goals
        obtain ⟨sources,-,hinput⟩ := Result.bind_eq_ok_iff.mp hinput
        rw [← Except.ok.inj hinput]
    rw [hsettings]
    -- code without the extra pair of braces supplies nothing
    refine follows_standard (fun given hgiven => ?_) _ _ _
    obtain ⟨_,_,hsome,-⟩ := (hsupplies given).mp hgiven
    rw [hbraces] at hsome
    cases hsome

lemma follows_parseMantle (h : parseMantle body = .ok source) :
    Follows (Supplies .mantle body) source.input.settings := by
  obtain ⟨entry,text,hfirst,hcode,hread⟩ := of_parseMantle h
  split at hread
  · exact follows_parseEtherscan (by simp) hread
  · next hflat =>
    rw [hread.settings]
    refine follows_standard (fun given hgiven => hflat ?_) _ _ _
    obtain ⟨_,_,hbraces,-⟩ := (supplies_code_iff (by simp) hfirst hcode _).mp hgiven
    rw [doubleBraced?_eq_some_iff.mp hbraces]
    rfl

lemma follows_parseBlockscout (h : parseBlockscout body = .ok source) :
    Follows (Supplies .blockscout body) source.input.settings := by
  have hsupplies : ∀ given, Supplies .blockscout body given ↔
      body.get? "compiler_settings" = some (.obj given) := by
    intro given
    constructor
    · rintro (⟨kinds⟩ | ⟨settings⟩)
      · simp at kinds
      · exact settings
    · exact .beside
  rw [(of_parseBlockscout h).settings, blockscoutSettings]
  split
  · next ms hsettings =>
    refine follows_select fun given => ?_
    rw [hsupplies, hsettings, Option.some.injEq]
  · next hsettings =>
    refine follows_standard (fun given hgiven => ?_) _ _ _
    exact hsettings given ((hsupplies given).mp hgiven)

lemma follows_parseZksync (h : parseZksync body = .ok source) :
    Follows (Supplies .zksync body) source.input.settings := by
  obtain ⟨request,code,path,hrequest,hcode,hinput⟩ := of_parseZksync h
  have hsupplies : ∀ given, Supplies .zksync body given ↔ GivesSettings code given := by
    intro given
    constructor
    · rintro (⟨kinds⟩ | _ | ⟨hasked,hinner,gives⟩)
      · simp at kinds
      · obtain rfl := Option.some.inj (hrequest.symm.trans hasked)
        obtain rfl := Option.some.inj (hcode.symm.trans hinner)
        exact gives
    · exact .request hrequest hcode
  unfold zksyncInput at hinput
  split at hinput
  · rw [← Except.ok.inj hinput]
    have hnone : ∀ given, ¬Supplies .zksync body given := by
      intro given hgiven
      obtain ⟨_,hget,-⟩ := (hsupplies given).mp hgiven
      cases hget
    change Follows _ (standard _ 200 none)
    exact follows_standard hnone _ _ _
  · split at hinput
    · next hsources =>
      obtain ⟨ms,rfl⟩ : ∃ ms, code = .obj ms := by
        cases code with
        | obj ms => exact ⟨ms,rfl⟩
        | _ => cases hsources
      obtain ⟨read,hread,hselected⟩ := Result.map_eq_ok_iff.mp hinput
      rw [← hselected]
      exact follows_selected (orSerialization_eq_ok_iff.mp hread) hsupplies
    · cases hinput

/-- The settings of every source ask for our outputs. Their other members are those that the answer
supplies, and where it supplies none, the optimizer and an EVM version at most. -/
theorem settings_follow (h : parse kind body = .ok source) :
    Follows (Supplies kind body) source.input.settings := by
  cases kind with
  | etherscan => exact follows_parseEtherscan (by simp) h
  | etherscanNoToken => exact follows_parseEtherscan (by simp) h
  | blockscout => exact follows_parseBlockscout h
  | zksync => exact follows_parseZksync h
  | mantle => exact follows_parseMantle h

/-- An answer with settings beside its only file. -/
def settledBody (settings : Json) : Json :=
  .obj [("name", .str "A"), ("compiler_version", .str "v0.8.9"), ("source_code", .str ""),
    ("evm_version", .str "DeFault"), ("compiler_settings", settings)]

def settledSource (settings : Json) : VerifiedSource :=
  ⟨"A", "v0.8.9", "Solidity", [("A", "")], settings⟩

/-- Settings that select other outputs, and settings that are no object. -/
theorem settings_follow_beside :
    (∃ source, parse .blockscout (settledBody (.obj [("viaIR", .bool true),
        ("outputSelection", .null), ("optimizer", .arr [])])) = .ok source ∧
      Completes [("viaIR", .bool true), ("outputSelection", .null), ("optimizer", .arr [])]
        source.input.settings) ∧
    ∃ source given, parse .blockscout (settledBody (.arr [])) = .ok source ∧ Plain given ∧
      Completes given source.input.settings := by
  constructor
  · have hparse : parse .blockscout (settledBody (.obj [("viaIR", .bool true),
        ("outputSelection", .null), ("optimizer", .arr [])])) =
          .ok (settledSource (.obj [("viaIR", .bool true), ("outputSelection", outputSelection),
            ("optimizer", .arr [])])) := rfl
    obtain ⟨given,hcompletes,hgiven,-⟩ := settings_follow hparse
    exact ⟨_,hparse,hgiven _ (.beside rfl) ▸ hcompletes⟩
  · have hparse : parse .blockscout (settledBody (.arr [])) =
        .ok (settledSource (standard false 200 (some "DeFault"))) := rfl
    have hnone : ∀ given, ¬Supplies .blockscout (settledBody (.arr [])) given := by
      rintro given (⟨kinds⟩ | ⟨hget⟩)
      · simp at kinds
      · cases hget
    obtain ⟨given,hcompletes,-,hplain⟩ := settings_follow hparse
    exact ⟨_,given,hparse,hplain hnone,hcompletes⟩

end Explorer

end DeployCheck
