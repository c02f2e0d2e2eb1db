import DeployCheck.Json.Printer
import DeployCheck.Proofs.Json.Reading
import DeployCheck.Proofs.Source.Settings

/-! Standard JSON input as explorers deliver it, as text in an extra pair of braces or as an object.
All of them report the same input. -/
namespace DeployCheck

open Json

namespace CompilerInput

variable {language : String} {sources : List (String × String)} {settings : Option Json} {j : Json}

/-- A file in standard JSON. -/
def fileMember (file : String × String) : String × Json := (file.1, .obj [("content", .str file.2)])

/-- The members of standard JSON. -/
def standardMembers (language : String) (sources : List (String × String))
    (settings : Option Json) : List (String × Json) :=
  [("language", .str language), ("sources", .obj (sources.map fileMember))] ++
    (settings.map fun s => ("settings", s)).toList

/-- Standard JSON: a language, files of different paths and perhaps settings, in any order. -/
structure IsStandardJson (language : String) (sources : List (String × String))
    (settings : Option Json) (j : Json) : Prop where
  members : ∃ ms, j = .obj ms ∧ ms.Perm (standardMembers language sources settings)
  paths : (sources.map Prod.fst).Nodup
  settings : ∀ s ∈ settings, s.Exact

/-! ## Reading -/

lemma contentOf_file (text : String) : contentOf (.obj [("content", .str text)]) = some text := by
  rw [contentOf, fields?_obj 1 (by simp) (by simp)]
  simp [Fields.required, lookup, asString?]

lemma sourcesOf_files (h : (sources.map Prod.fst).Nodup) :
    sourcesOf (.obj (sources.map fileMember)) = some sources := by
  have hread : (sources.map fileMember).mapM (fun m => (contentOf m.2).map fun v => (m.1, v)) =
      some sources := by
    clear h
    induction sources with
    | nil => rfl
    | cons s sources ih =>
      rw [List.map_cons, List.mapM_cons, ih, fileMember, contentOf_file]
      rfl
  simp [sourcesOf, mapOf, asObject?, hread, insertAll_of_nodup h]

lemma mem_standardMembers {m : String × Json} : m ∈ standardMembers language sources settings ↔
    m = ("language", .str language) ∨ m = ("sources", .obj (sources.map fileMember)) ∨
      ∃ s ∈ settings, m = ("settings", s) := by
  cases settings <;> simp [standardMembers]

lemma nodup_keys_standardMembers :
    ((standardMembers language sources settings).map Prod.fst).Nodup := by
  cases settings <;> simp [standardMembers]

/-- What is found in standard JSON under the names of its parts. -/
lemma IsStandardJson.exists_members (h : IsStandardJson language sources settings j) :
    ∃ ms, j = .obj ms ∧
      fields? ["language", "sources", "settings"] 2 j = some ms ∧
      lookup "language" ms = some (.str language) ∧
      lookup "sources" ms = some (.obj (sources.map fileMember)) ∧
      lookup "settings" ms = settings := by
  obtain ⟨ms,rfl,hperm⟩ := h.members
  have hkeys : (ms.map Prod.fst).Nodup :=
    (hperm.map Prod.fst).nodup_iff.mpr nodup_keys_standardMembers
  have hfind : ∀ {key value}, (key, value) ∈ standardMembers language sources settings →
      lookup key ms = some value := fun hmem =>
    lookup_eq_some_of_mem hkeys (hperm.mem_iff.mpr hmem)
  refine ⟨ms,rfl,fields?_obj 2 hkeys fun m hm => ?_,hfind (by simp [standardMembers]),
    hfind (by simp [standardMembers]),?_⟩
  · rcases mem_standardMembers.mp (hperm.mem_iff.mp hm) with rfl | rfl | ⟨s,-,rfl⟩ <;> simp
  · cases settings with
    | none =>
      refine lookup_eq_none fun hmem => ?_
      have hkey := (hperm.map Prod.fst).mem_iff.mp hmem
      simp [standardMembers] at hkey
    | some s => exact hfind (by simp [standardMembers])

/-- Standard JSON is read as what it holds. -/
theorem ofJson_of_isStandardJson (h : IsStandardJson language sources settings j) :
    ofJson j = some ⟨language, sources, settings.getD .null⟩ := by
  obtain ⟨ms,rfl,hfields,hlanguage,hsources,hsettings⟩ := h.exists_members
  have hread : Fields.withDefault .null (fun s => some s.merged) ms "settings" =
      some (settings.getD .null) := by
    unfold Fields.withDefault
    cases settings with
    | none => simp [hsettings]
    | some s => simp [hsettings, (h.settings s rfl).merged_eq]
  simp [ofJson, hfields, Fields.required, hlanguage, asString?, hsources, sourcesOf_files h.paths,
    hread]

/-- Its compact text is read back where only input is looked for. -/
theorem reads_of_isStandardJson (h : IsStandardJson language sources settings j)
    (hdepth : j.depth ≤ 127) : Reads 127 shape j := by
  obtain ⟨ms,rfl,hperm⟩ := h.members
  have htext : ∀ {depth} (s : String), Reads depth .whole (.str s) := fun s =>
    (Exact.str s).reads (Nat.zero_le _)
  refine reads_object fun m hm => ?_
  have hinner : m.2.depth ≤ 126 :=
    Nat.le_trans (depth_le_of_mem_members hm) (Nat.le_of_succ_le_succ hdepth)
  rcases mem_standardMembers.mp (hperm.mem_iff.mp hm) with rfl | rfl | ⟨s,hs,rfl⟩
  · exact ⟨.whole,rfl,htext language⟩
  · refine ⟨sourcesShape,rfl,reads_object fun file hfile => ⟨.plain ["content"],rfl,?_⟩⟩
    obtain ⟨file,-,rfl⟩ := List.mem_map.mp hfile
    refine reads_object fun m hm => ⟨.whole,?_⟩
    obtain rfl := List.mem_singleton.mp hm
    exact ⟨rfl,htext file.2⟩
  · exact ⟨.whole,rfl,(h.settings s hs).reads hinner⟩

end CompilerInput

/-! ## Selection -/

/-- Settings with our output selection that otherwise are those given, in order; what is no object
gives none. -/
def Settings.Selects (given settings : Json) : Prop :=
  ∃ ms, settings = .obj ms ∧ (ms.map Prod.fst).Nodup ∧
    lookup "outputSelection" ms = some outputSelection ∧
    ms.filter (fun m => m.1 != "outputSelection") =
      (given.asObject?.getD []).filter fun m => m.1 != "outputSelection"

lemma Settings.selects_select {given : Json} (h : given.Exact) : Selects given (select given) := by
  obtain ⟨ms,hms,hselection,hkept,hkeys⟩ := completes_select given
  refine ⟨ms,hms,hkeys ?_,hselection,hkept⟩
  cases h with
  | obj keys => exact keys
  | _ => exact List.nodup_nil

/-! ## Explorers -/

namespace Explorer

open CompilerInput

/-- Standard JSON as source code: its text in an extra pair of braces. -/
def doubleBraced (j : Json) : String := "\x7b" ++ j.compact ++ "\x7d"

/-- An answer of the first kind whose first entry has this source code. -/
structure GivesCode (body : Json) (code : String) : Prop where
  status : body.string? "status" ≠ some "0"
  entry : ∃ result others, body.get? "result" = some (.arr (result :: others)) ∧
    result.string? "SourceCode" = some code ∧ (result.string? "ContractName").isSome ∧
    (result.string? "CompilerVersion").isSome

/-- A verification request with this source. -/
structure GivesRequest (body source : Json) : Prop where
  request : ∃ request, body.get? "request" = some request ∧
    request.get? "sourceCode" = some source ∧ (request.string? "contractName").isSome ∧
    (request.string? "compilerSolcVersion").isSome

lemma toList_doubleBraced (ms : List (String × Json)) : (doubleBraced (.obj ms)).toList =
    ['\x7b', '\x7b'] ++ (writeMembers ms ++ ['\x7d', '\x7d']) := by
  simp [doubleBraced, compact, write]

lemma doubleBraced?_obj (ms : List (String × Json)) :
    doubleBraced? (doubleBraced (.obj ms)) = some (writeMembers ms) := by
  rw [doubleBraced?_eq_some_iff, toList_doubleBraced, List.append_assoc]

variable {language : String} {sources : List (String × String)} {settings : Option Json}
  {j body : Json}

lemma etherscanInput_standardJson (h : IsStandardJson language sources settings j)
    (hdepth : j.depth ≤ 127) (name : String) (result : Json) :
    etherscanInput name (doubleBraced j) result =
      .ok ⟨language, sources, Settings.select (settings.getD .null)⟩ := by
  have hparse := parseAs?_compact (reads_of_isStandardJson h hdepth)
  have hread := ofJson_of_isStandardJson h
  obtain ⟨ms,rfl,-⟩ := h.members
  -- what is left of the doubled braces is the object's own pair
  have htext : String.ofList ('\x7b' :: writeMembers ms ++ ['\x7d']) = (Json.obj ms).compact := by
    simp [compact, write]
  rw [etherscanInput, doubleBraced?_obj]
  simp only [htext, hparse, Option.bind_some, hread]
  rfl

/-- The entry with the source code is found. -/
lemma GivesCode.exists_firstResult {code : String} (h : GivesCode body code) (hne : code ≠ "") :
    ∃ result, firstResult body = .ok result ∧ result.string? "SourceCode" = some code ∧
      (result.string? "ContractName").isSome ∧ (result.string? "CompilerVersion").isSome := by
  obtain ⟨result,others,hresult,hcode,hrest⟩ := h.entry
  refine ⟨result,?_,hcode,hrest⟩
  rw [firstResult, if_neg (by simpa using h.status), hresult]
  simp only [Option.bind_some, asArray?, List.head?_cons, stringField_eq_ok_iff.mpr hcode,
    Result.ok_bind, if_neg hne]
  rfl

lemma head?_doubleBraced (h : IsStandardJson language sources settings j) :
    (doubleBraced j).toList.head? = some '\x7b' := by
  obtain ⟨ms,rfl,-⟩ := h.members
  rw [toList_doubleBraced]
  rfl

lemma doubleBraced_ne_empty (h : IsStandardJson language sources settings j) :
    doubleBraced j ≠ "" := by
  intro heq
  have hhead := head?_doubleBraced h
  simp [heq] at hhead

lemma parseEtherscan_standardJson (h : IsStandardJson language sources settings j)
    (hdepth : j.depth ≤ 127) (hbody : GivesCode body (doubleBraced j)) :
    (parseEtherscan body).map (·.input) =
      .ok ⟨language, sources, Settings.select (settings.getD .null)⟩ := by
  obtain ⟨result,hfirst,hcode,hname,hversion⟩ :=
    hbody.exists_firstResult (doubleBraced_ne_empty h)
  obtain ⟨name,hname⟩ := Option.isSome_iff_exists.mp hname
  obtain ⟨version,hversion⟩ := Option.isSome_iff_exists.mp hversion
  simp only [parseEtherscan, hfirst, stringField_eq_ok_iff.mpr hname,
    stringField_eq_ok_iff.mpr hversion, stringField_eq_ok_iff.mpr hcode,
    etherscanInput_standardJson h hdepth, Result.ok_bind]
  rfl

/-- Code that begins with a brace is read as by the first kind. -/
lemma parseMantle_eq_parseEtherscan (h : IsStandardJson language sources settings j)
    (hbody : GivesCode body (doubleBraced j)) : parseMantle body = parseEtherscan body := by
  obtain ⟨result,hfirst,hcode,-⟩ := hbody.exists_firstResult (doubleBraced_ne_empty h)
  simp only [parseMantle, hfirst, stringField_eq_ok_iff.mpr hcode, Result.ok_bind,
    if_pos (head?_doubleBraced h)]

lemma parseZksync_standardJson (h : IsStandardJson language sources settings j)
    (hbody : GivesRequest body j) : (parseZksync body).map (·.input) =
      .ok ⟨language, sources, Settings.select (settings.getD .null)⟩ := by
  obtain ⟨request,hrequest,hsource,hname,hversion⟩ := hbody.request
  obtain ⟨name,hname⟩ := Option.isSome_iff_exists.mp hname
  obtain ⟨version,hversion⟩ := Option.isSome_iff_exists.mp hversion
  have hread := ofJson_of_isStandardJson h
  have hinput : ∀ path, zksyncInput path request j =
      .ok ⟨language, sources, Settings.select (settings.getD .null)⟩ := by
    intro path
    obtain ⟨ms,rfl,-,-,hsources,-⟩ := h.exists_members
    have hget : ((Json.obj ms).get? "sources").isSome := by simp [get?, hsources]
    rw [zksyncInput, if_pos hget, hread]
    · rfl
    · rintro code ⟨⟩
  simp only [parseZksync, valueField_eq_ok_iff.mpr hrequest, valueField_eq_ok_iff.mpr hsource,
    stringField_eq_ok_iff.mpr hname, stringField_eq_ok_iff.mpr hversion, hinput, Result.ok_bind]
  rfl

/-- Standard JSON is the same input whichever explorer delivers it, as text in an extra pair of
braces or as an object: its language, its files in order and its settings with our output
selection. -/
theorem input_of_standardJson {first mantle zksync : Json}
    (h : IsStandardJson language sources settings j) (hdepth : j.depth ≤ 127)
    (hfirst : GivesCode first (doubleBraced j)) (hmantle : GivesCode mantle (doubleBraced j))
    (hzksync : GivesRequest zksync j) :
    ∃ selection, Settings.Selects (settings.getD .null) selection ∧
      (parseEtherscan first).map (·.input) = .ok ⟨language, sources, selection⟩ ∧
      (parseMantle mantle).map (·.input) = .ok ⟨language, sources, selection⟩ ∧
      (parseZksync zksync).map (·.input) = .ok ⟨language, sources, selection⟩ := by
  have hexact : (settings.getD .null).Exact := by
    cases settings with
    | none => exact .null
    | some s => exact h.settings s rfl
  refine ⟨_,Settings.selects_select hexact,parseEtherscan_standardJson h hdepth hfirst,?_,
    parseZksync_standardJson h hzksync⟩
  rw [parseMantle_eq_parseEtherscan h hmantle]
  exact parseEtherscan_standardJson h hdepth hmantle

/-- An answer of the first kind with one entry. -/
def entryBody (code : String) : Json :=
  .obj [("status", .str "1"), ("result", .arr [.obj [("SourceCode", .str code),
    ("ContractName", .str "A"), ("CompilerVersion", .str "v0.8.20+commit.a1b79de6")]])]

def requestBody (source : Json) : Json :=
  .obj [("request", .obj [("contractName", .str "A.sol:A"), ("sourceCode", source),
    ("compilerSolcVersion", .str "0.8.20")])]

lemma givesCode_entryBody (code : String) : GivesCode (entryBody code) code :=
  ⟨by simp [entryBody, string?, get?, lookup, asString?],_,[],rfl,rfl,rfl,rfl⟩

lemma givesRequest_requestBody (source : Json) : GivesRequest (requestBody source) source :=
  ⟨_,rfl,rfl,rfl,rfl⟩

/-- A file of braces and quotes, and an empty one. -/
def sampleSources : List (String × String) := [("b/B.sol", "\x7d\x7d\"\\\n"), ("A.sol", "")]

def sampleSettings : Json := .obj [("outputSelection", .null), ("optimizer", .arr [.int (-1)])]

/-- Standard JSON that ends with its language. -/
def sampleJson : Json :=
  .obj [("sources", .obj (sampleSources.map fileMember)), ("settings", sampleSettings),
    ("language", .str "Solidity")]

lemma isStandardJson_sampleJson :
    IsStandardJson "Solidity" sampleSources (some sampleSettings) sampleJson := by
  refine ⟨⟨_,rfl,?_⟩,by decide,?_⟩
  · exact @List.perm_append_comm _ [_, _] [_]
  · rintro s ⟨⟩
    refine .obj (by decide) (List.forall_mem_cons.mpr ⟨.null,List.forall_mem_singleton.mpr ?_⟩)
    exact .arr (List.forall_mem_singleton.mpr (.int ⟨by decide,by decide⟩))

/-- All explorers report the input of that standard JSON. -/
theorem input_of_standardJson_sample : ∃ selection,
    Settings.Selects sampleSettings selection ∧
    (parseEtherscan (entryBody (doubleBraced sampleJson))).map (·.input) =
      .ok ⟨"Solidity", sampleSources, selection⟩ ∧
    (parseMantle (entryBody (doubleBraced sampleJson))).map (·.input) =
      .ok ⟨"Solidity", sampleSources, selection⟩ ∧
    (parseZksync (requestBody sampleJson)).map (·.input) =
      .ok ⟨"Solidity", sampleSources, selection⟩ :=
  input_of_standardJson isStandardJson_sampleJson (by decide) (givesCode_entryBody _)
    (givesCode_entryBody _) (givesRequest_requestBody _)

end Explorer

end DeployCheck
