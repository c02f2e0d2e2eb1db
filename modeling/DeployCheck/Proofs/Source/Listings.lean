import DeployCheck.Proofs.Json.Maps
import DeployCheck.Proofs.Source.Answers

/-! Files that an explorer lists beside a main file. None of them is lost: a source has the main
file and then every listed one in order, and an item that is no file lets the whole answer fail. -/
namespace DeployCheck.Explorer

open Result

namespace FileKeys

/-- An item of the list states a file. -/
def States (keys : FileKeys) (item : Json) (file : String × String) : Prop :=
  item.string? keys.furtherPath = some file.1 ∧ item.string? keys.furtherContent = some file.2

/-- The items of the list; there are none where there is no list. -/
def listed (keys : FileKeys) (entry : Json) : List Json :=
  ((entry.get? keys.further).bind Json.asArray?).getD []

/-- An entry has a main file, under its path or else the contract's name, and lists further ones. -/
structure Names (keys : FileKeys) (entry : Json) (main : String × String)
    (further : List (String × String)) : Prop where
  path : (entry.string? keys.path).or (entry.string? keys.name) = some main.1
  content : entry.string? keys.content = some main.2
  further : List.Forall₂ keys.States (keys.listed entry) further

end FileKeys

/-- An answer of a kind whose files stand in an entry under their own names: an answer with flat
source code, or one that is an entry itself. -/
inductive ListsFiles : ExplorerKind → FileKeys → Json → Json → Prop
  | mantle {body entry : Json} {text : String} (first : IsFirst body entry)
    (code : entry.string? "SourceCode" = some text) (flat : text.toList.head? ≠ some '\x7b') :
    ListsFiles .mantle .mantle body entry
  | blockscout (body : Json) : ListsFiles .blockscout .blockscout body body

variable {kind : ExplorerKind} {keys : FileKeys} {body entry : Json} {source : VerifiedSource}

lemma ListsFiles.readsFiles (h : ListsFiles kind keys body entry)
    (hparse : parse kind body = .ok source) :
    ∃ settings, ReadsFiles keys entry settings source := by
  cases h with
  | mantle first code flat =>
    obtain ⟨found,text,hfirst,htext,hread⟩ := of_parseMantle hparse
    obtain rfl := first.unique hfirst
    obtain rfl := Option.some.inj (code.symm.trans htext)
    rw [if_neg flat] at hread
    exact ⟨_,hread⟩
  | blockscout => exact ⟨_,of_parseBlockscout hparse⟩

/-- All items of the list are read, one after the other. -/
lemma withExtras_eq_ok_iff {path content : String} {sources : List (String × String)} :
    withExtras path content (entry.get? keys.further) keys.furtherPath keys.furtherContent =
        .ok sources ↔
      ∃ further, List.Forall₂ keys.States (keys.listed entry) further ∧
        sources = Json.insertAll ((path, content) :: further) := by
  have hstates : ∀ item file, (do
      let path ← stringField item keys.furtherPath
      return (path, ← stringField item keys.furtherContent)) = Except.ok file ↔
        keys.States item file := by
    rintro item ⟨path,content⟩
    simp only [bind_eq_ok_iff, stringField_eq_ok_iff, FileKeys.States]
    constructor
    · rintro ⟨_,hpath,_,hcontent,h⟩
      cases h
      exact ⟨hpath,hcontent⟩
    · rintro ⟨hpath,hcontent⟩
      exact ⟨path,hpath,content,hcontent,rfl⟩
  simp only [withExtras, bind_eq_ok_iff, mapM_eq_ok_iff, hstates]
  constructor
  · rintro ⟨further,hfurther,h⟩
    exact ⟨further,hfurther,(Except.ok.inj h).symm⟩
  · rintro ⟨further,hfurther,rfl⟩
    exact ⟨further,hfurther,rfl⟩

lemma ReadsFiles.exists_names {settings : Json} (h : ReadsFiles keys entry settings source) :
    ∃ main further, keys.Names entry main further ∧
      source.input.sources = Json.insertAll (main :: further) := by
  obtain ⟨content,hcontent,hfiles⟩ := h.files
  obtain ⟨further,hfurther,hsources⟩ := withExtras_eq_ok_iff.mp hfiles
  refine ⟨_,further,⟨?_,hcontent,hfurther⟩,hsources⟩
  rw [h.name]
  cases entry.string? keys.path <;> rfl

/-- A source has the main file and then all listed files, in order. A path that is listed again
keeps its first position and takes the content that is listed last. Where an item lacks a path or a
content, there is no source. -/
theorem files_of_listsFiles (h : ListsFiles kind keys body entry) :
    (∀ source, parse kind body = .ok source → ∃ main further, keys.Names entry main further ∧
      Json.Gathers (main :: further) source.input.sources ∧
      (((main :: further).map Prod.fst).Nodup → source.input.sources = main :: further)) ∧
    ∀ item ∈ keys.listed entry,
      item.string? keys.furtherPath = none ∨ item.string? keys.furtherContent = none →
        ∃ e, parse kind body = .error e := by
  have hfiles : ∀ source, parse kind body = .ok source → ∃ main further,
      keys.Names entry main further ∧ source.input.sources = Json.insertAll (main :: further) := by
    intro source hparse
    obtain ⟨_,hreads⟩ := h.readsFiles hparse
    exact hreads.exists_names
  constructor
  · intro source hparse
    obtain ⟨main,further,hnames,hsources⟩ := hfiles source hparse
    rw [hsources]
    exact ⟨main,further,hnames,Json.gathers_insertAll _,Json.insertAll_of_nodup⟩
  · intro item hitem hlacks
    cases hparse : parse kind body with
    | error e => exact ⟨e,rfl⟩
    | ok source =>
      obtain ⟨main,further,hnames,-⟩ := hfiles source hparse
      obtain ⟨file,hpath,hcontent⟩ : ∃ file, keys.States item file := by
        obtain ⟨i,hi,rfl⟩ := List.getElem_of_mem hitem
        have hlength := hnames.further.length_eq
        exact ⟨_,hnames.further.get hi (hlength ▸ hi)⟩
      rcases hlacks with hnone | hnone
      · rw [hnone] at hpath
        cases hpath
      · rw [hnone] at hcontent
        cases hcontent

/-- An answer with the main file `A.sol` and a list of further ones. -/
def listingBody (further : List Json) : Json :=
  .obj [("result", .arr [.obj [("ContractName", .str "A"), ("FileName", .str "A.sol"),
    ("SourceCode", .str "old"), ("CompilerVersion", .str "v0.8.9"),
    ("AdditionalSources", .arr further)]])]

def listedFile (path content : String) : Json :=
  .obj [("Filename", .str path), ("SourceCode", .str content)]

/-- The main file is listed again behind another file; and a file is listed without its content. -/
theorem files_of_listsFiles_again :
    (∃ source main further,
      parse .mantle (listingBody [listedFile "B.sol" "b", listedFile "A.sol" "new"]) = .ok source ∧
      Json.Gathers (main :: further) source.input.sources ∧
      source.input.sources = [("A.sol", "new"), ("B.sol", "b")]) ∧
    ∃ e, parse .mantle (listingBody [.obj [("Filename", .str "B.sol")]]) = .error e := by
  have hlists : ∀ further, ListsFiles .mantle .mantle (listingBody further) _ := fun _ =>
    .mantle ⟨[],rfl⟩ rfl (by decide)
  constructor
  · have hparse : parse .mantle (listingBody [listedFile "B.sol" "b", listedFile "A.sol" "new"]) =
        .ok ⟨"A", "v0.8.9", "Solidity", [("A.sol", "new"), ("B.sol", "b")],
          Settings.standard false 200 none⟩ := rfl
    obtain ⟨main,further,-,hgathers,-⟩ := (files_of_listsFiles (hlists _)).1 _ hparse
    exact ⟨_,main,further,hparse,hgathers,rfl⟩
  · exact (files_of_listsFiles (hlists _)).2 _ List.mem_cons_self (.inr rfl)

end DeployCheck.Explorer
