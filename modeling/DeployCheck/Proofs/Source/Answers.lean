import DeployCheck.Explorer.Basic
import DeployCheck.Proofs.Result

/-! Where the parts of a source stand in the answer that it was read from. -/
namespace DeployCheck.Explorer

open Result

/-- The names under which an entry has its main file and lists further files. -/
structure FileKeys where
  /-- The name of the contract, which stands in for the main path. -/
  name : String
  path : String
  content : String
  /-- The list of further files. -/
  further : String
  furtherPath : String
  furtherContent : String

namespace FileKeys

def mantle : FileKeys where
  name := "ContractName"
  path := "FileName"
  content := "SourceCode"
  further := "AdditionalSources"
  furtherPath := "Filename"
  furtherContent := "SourceCode"

def blockscout : FileKeys where
  name := "name"
  path := "file_path"
  content := "source_code"
  further := "additional_sources"
  furtherPath := "file_path"
  furtherContent := "source_code"

end FileKeys

/-- The first entry of an answer of the first kind. -/
def IsFirst (body entry : Json) : Prop :=
  ∃ others, body.get? "result" = some (.arr (entry :: others))

/-- A source read from an entry that lists its files, with settings from elsewhere. -/
structure ReadsFiles (keys : FileKeys) (entry settings : Json) (source : VerifiedSource) :
    Prop where
  name : entry.string? keys.name = some source.name
  files : ∃ content, entry.string? keys.content = some content ∧
    withExtras ((entry.string? keys.path).getD source.name) content (entry.get? keys.further)
      keys.furtherPath keys.furtherContent = .ok source.input.sources
  settings : source.input.settings = settings

variable {body entry : Json} {source : VerifiedSource}

lemma stringField_eq_ok_iff {j : Json} {key text : String} :
    stringField j key = .ok text ↔ j.string? key = some text := by
  unfold stringField
  cases j.string? key <;> simp

lemma valueField_eq_ok_iff {j value : Json} {key : String} :
    valueField j key = .ok value ↔ j.get? key = some value := by
  unfold valueField
  cases j.get? key <;> simp

lemma doubleBraced?_eq_some_iff {text : String} {inner : List Char} :
    doubleBraced? text = some inner ↔
      text.toList = ['\x7b', '\x7b'] ++ inner ++ ['\x7d', '\x7d'] := by
  simp only [doubleBraced?, Option.bind_eq_some_iff, Text.after?_eq_some_iff,
    Text.before?_eq_some_iff]
  constructor
  · rintro ⟨rest,htext,rfl⟩
    rw [htext, List.append_assoc]
  · intro htext
    exact ⟨_,by rw [htext, List.append_assoc],rfl⟩

lemma IsFirst.unique {other : Json} (h : IsFirst body entry) (k : IsFirst body other) :
    entry = other := by
  obtain ⟨_,h⟩ := h
  obtain ⟨_,k⟩ := k
  have hsame := h.symm.trans k
  simp only [Option.some.injEq, Json.arr.injEq, List.cons.injEq] at hsame
  exact hsame.1

lemma isFirst_of_firstResult (h : firstResult body = .ok entry) : IsFirst body entry := by
  unfold firstResult at h
  split at h
  · cases h
  · split at h
    · cases h
    · next found hfound =>
      obtain ⟨code,-,h⟩ := bind_eq_ok_iff.mp h
      obtain rfl : found = entry := by
        dsimp only at h
        split at h
        · cases h
        · exact Except.ok.inj h
      obtain ⟨items,hitems,hhead⟩ := Option.bind_eq_some_iff.mp hfound
      obtain ⟨result,hresult,harray⟩ := Option.bind_eq_some_iff.mp hitems
      obtain ⟨others,rfl⟩ := List.head?_eq_some_iff.mp hhead
      cases result with
      | arr =>
        obtain rfl := Option.some.inj harray
        exact ⟨others,hresult⟩
      | _ => cases harray

/-! ## Sources -/

theorem of_parseEtherscan (h : parseEtherscan body = .ok source) :
    ∃ entry code, IsFirst body entry ∧ entry.string? "SourceCode" = some code ∧
      etherscanInput source.name code entry = .ok source.input := by
  simp only [parseEtherscan, bind_eq_ok_iff, stringField_eq_ok_iff] at h
  obtain ⟨entry,hfirst,name,-,version,-,code,hcode,input,hinput,h⟩ := h
  obtain rfl := Except.ok.inj h
  exact ⟨entry,code,isFirst_of_firstResult hfirst,hcode,hinput⟩

/-- Code that begins with a brace is read as by the first kind. -/
theorem of_parseMantle (h : parseMantle body = .ok source) :
    ∃ entry code, IsFirst body entry ∧ entry.string? "SourceCode" = some code ∧
      if code.toList.head? = some '\x7b' then parseEtherscan body = .ok source
      else ReadsFiles .mantle entry (settingsOf entry) source := by
  simp only [parseMantle, bind_eq_ok_iff, stringField_eq_ok_iff] at h
  obtain ⟨entry,hfirst,code,hcode,h⟩ := h
  refine ⟨entry,code,isFirst_of_firstResult hfirst,hcode,?_⟩
  split at h
  · next hbrace => rwa [if_pos hbrace]
  · next hbrace =>
    simp only [bind_eq_ok_iff, stringField_eq_ok_iff] at h
    obtain ⟨name,hname,sources,hsources,version,-,h⟩ := h
    obtain rfl := Except.ok.inj h
    rw [if_neg hbrace]
    exact ⟨hname,⟨code,hcode,hsources⟩,rfl⟩

theorem of_parseBlockscout (h : parseBlockscout body = .ok source) :
    ReadsFiles .blockscout body (blockscoutSettings body) source := by
  unfold parseBlockscout at h
  dsimp only at h
  split at h
  · cases h
  · simp only [bind_eq_ok_iff, stringField_eq_ok_iff] at h
    obtain ⟨name,hname,content,hcontent,sources,hsources,version,-,h⟩ := h
    obtain rfl := Except.ok.inj h
    exact ⟨hname,⟨content,hcontent,hsources⟩,rfl⟩

theorem of_parseZksync (h : parseZksync body = .ok source) :
    ∃ request code path, body.get? "request" = some request ∧
      request.get? "sourceCode" = some code ∧ zksyncInput path request code = .ok source.input := by
  simp only [parseZksync, bind_eq_ok_iff, stringField_eq_ok_iff, valueField_eq_ok_iff] at h
  obtain ⟨request,hrequest,qualified,-,version,-,code,hcode,input,hinput,h⟩ := h
  obtain rfl := Except.ok.inj h
  exact ⟨request,code,_,hrequest,hcode,hinput⟩

end DeployCheck.Explorer
