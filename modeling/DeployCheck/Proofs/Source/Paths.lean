import DeployCheck.Proofs.Json.Maps
import DeployCheck.Proofs.Running
import DeployCheck.Proofs.Source.Answers

/-! Every source that an explorer reports holds a path once: no path of it stands for two files. -/
namespace DeployCheck

namespace Json

lemma nodup_keys_of_mapOf {α : Type} {read : Json → Option α} {j : Json} {m : List (String × α)}
    (h : mapOf read j = some m) : (m.map Prod.fst).Nodup := by
  obtain ⟨members,-,hmembers⟩ := Option.bind_eq_some_iff.mp h
  obtain ⟨entries,-,rfl⟩ := Option.map_eq_some_iff.mp hmembers
  exact nodup_keys_insertAll entries

end Json

/-- No two files of the input have the same path. -/
def CompilerInput.NamesFilesOnce (input : CompilerInput) : Prop :=
  (input.sources.map Prod.fst).Nodup

open CompilerInput

lemma CompilerInput.namesFilesOnce_single (file : String × String) (settings : Json) :
    NamesFilesOnce ⟨"Solidity", [file], settings⟩ := by
  simp [NamesFilesOnce]

lemma CompilerInput.namesFilesOnce_of_ofJson {j : Json} {input : CompilerInput}
    (h : ofJson j = some input) : input.NamesFilesOnce := by
  simp only [ofJson, Option.bind_eq_bind, Option.bind_eq_some_iff, Option.pure_def] at h
  obtain ⟨fields,-,language,-,sources,hsources,settings,-,h⟩ := h
  obtain ⟨value,-,hvalue⟩ := Option.bind_eq_some_iff.mp hsources
  obtain rfl := Option.some.inj h
  exact Json.nodup_keys_of_mapOf hvalue

namespace Explorer

open Result

lemma orSerialization_eq_ok_iff {α : Type} {x : Option α} {a : α} :
    orSerialization x = .ok a ↔ x = some a := by
  cases x <;> simp [orSerialization]

lemma namesFilesOnce_etherscanInput {name code : String} {result : Json} {input : CompilerInput}
    (h : etherscanInput name code result = .ok input) : input.NamesFilesOnce := by
  unfold etherscanInput at h
  split at h
  · obtain ⟨read,hread,h⟩ := bind_eq_ok_iff.mp h
    obtain ⟨j,-,hj⟩ := Option.bind_eq_some_iff.mp (orSerialization_eq_ok_iff.mp hread)
    obtain rfl := Except.ok.inj h
    have hpaths : read.NamesFilesOnce := namesFilesOnce_of_ofJson hj
    exact hpaths
  · dsimp only at h
    split at h
    · obtain ⟨sources,hsources,h⟩ := bind_eq_ok_iff.mp h
      obtain ⟨j,-,hj⟩ := Option.bind_eq_some_iff.mp (orSerialization_eq_ok_iff.mp hsources)
      obtain rfl := Except.ok.inj h
      exact Json.nodup_keys_of_mapOf hj
    · obtain rfl := Except.ok.inj h
      exact namesFilesOnce_single _ _

lemma namesFilesOnce_parseEtherscan {body : Json} {source : VerifiedSource}
    (h : parseEtherscan body = .ok source) : source.input.NamesFilesOnce := by
  obtain ⟨_,_,-,-,hinput⟩ := of_parseEtherscan h
  exact namesFilesOnce_etherscanInput hinput

lemma nodup_keys_of_withExtras {path content pathKey contentKey : String} {extras : Option Json}
    {sources : List (String × String)}
    (h : withExtras path content extras pathKey contentKey = .ok sources) :
    (sources.map Prod.fst).Nodup := by
  obtain ⟨files,-,h⟩ := bind_eq_ok_iff.mp h
  obtain rfl := Except.ok.inj h
  exact Json.nodup_keys_insertAll _

lemma ReadsFiles.namesFilesOnce {keys : FileKeys} {entry settings : Json} {source : VerifiedSource}
    (h : ReadsFiles keys entry settings source) : source.input.NamesFilesOnce := by
  obtain ⟨_,-,hsources⟩ := h.files
  exact nodup_keys_of_withExtras hsources

lemma namesFilesOnce_parseMantle {body : Json} {source : VerifiedSource}
    (h : parseMantle body = .ok source) : source.input.NamesFilesOnce := by
  obtain ⟨_,_,-,-,hread⟩ := of_parseMantle h
  split at hread
  · exact namesFilesOnce_parseEtherscan hread
  · exact hread.namesFilesOnce

lemma namesFilesOnce_zksyncInput {path : String} {request code : Json} {input : CompilerInput}
    (h : zksyncInput path request code = .ok input) : input.NamesFilesOnce := by
  unfold zksyncInput at h
  split at h
  · obtain rfl := Except.ok.inj h
    exact namesFilesOnce_single _ _
  · split at h
    · obtain ⟨read,hread,rfl⟩ := map_eq_ok_iff.mp h
      have hpaths : read.NamesFilesOnce :=
        namesFilesOnce_of_ofJson (orSerialization_eq_ok_iff.mp hread)
      exact hpaths
    · cases h

lemma namesFilesOnce_parseZksync {body : Json} {source : VerifiedSource}
    (h : parseZksync body = .ok source) : source.input.NamesFilesOnce := by
  obtain ⟨_,_,_,-,-,hinput⟩ := of_parseZksync h
  exact namesFilesOnce_zksyncInput hinput

/-- Every source that an explorer reports has each path once. -/
theorem namesFilesOnce_of_parse {kind : ExplorerKind} {body : Json} {source : VerifiedSource}
    (h : parse kind body = .ok source) : source.input.NamesFilesOnce := by
  cases kind with
  | etherscan => exact namesFilesOnce_parseEtherscan h
  | etherscanNoToken => exact namesFilesOnce_parseEtherscan h
  | blockscout => exact (of_parseBlockscout h).namesFilesOnce
  | zksync => exact namesFilesOnce_parseZksync h
  | mantle => exact namesFilesOnce_parseMantle h

theorem namesFilesOnce_of_fetch {x : Explorer} {address : String} {source : VerifiedSource}
    {w : World} {st last : State} (h : (x.fetch address).run w st = (.ok source, last)) :
    source.input.NamesFilesOnce := by
  simp only [fetch, Action.run_bind_eq_ok_iff, Action.run_ofExcept, Prod.mk.injEq] at h
  obtain ⟨reply,sent,-,body,read,-,hparse,-⟩ := h
  exact namesFilesOnce_of_parse hparse

end Explorer

end DeployCheck
