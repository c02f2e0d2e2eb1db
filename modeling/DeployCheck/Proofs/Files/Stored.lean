import DeployCheck.Files.Basic
import DeployCheck.Proofs.Result
import DeployCheck.Proofs.Text.Blob

/-! What changes of a tree leave behind. Making directories keeps every file, and writing a file
keeps all others. No way that leads somewhere is lost. -/
namespace DeployCheck.Files

variable {fs gs : Files} {l k : Location} {path : String} {contents : Blob} {executable : Bool}

/-- The file at a location: what it holds, and whether it can be executed. -/
def stored? (fs : Files) (l : Location) : Option (Blob × Bool) :=
  match fs.entryAt? l with
  | some (.file contents executable) => some (contents, executable)
  | _ => none

lemma fileAt?_of_locate (h : fs.locate path = .ok l) : fs.fileAt? path = fs.stored? l := by
  simp only [fileAt?, h]
  rfl

lemma exists_locate_of_fileAt? {file : Blob × Bool} (h : fs.fileAt? path = some file) :
    ∃ l, fs.locate path = .ok l ∧ fs.stored? l = some file := by
  cases hl : fs.locate path with
  | error e => simp [fileAt?, hl] at h
  | ok l => exact ⟨l,rfl,fileAt?_of_locate hl ▸ h⟩

/-- A file that was written as a text is read as it. -/
lemma read?_of_fileAt? {text : String} (h : fs.fileAt? path = some (.ofText text, executable)) :
    fs.read? path = some text := by
  simp [read?, contents?, h]

lemma stored?_eq_none_iff : fs.stored? l = none ↔ fs.isFileAt l = false := by
  unfold stored? isFileAt
  cases hentry : fs.entryAt? l with
  | none => simp
  | some entry => cases entry <;> simp

/-- What does not exist is no file. -/
lemma fileAt?_eq_none_of_not_exists (h : fs.exists? path = false) : fs.fileAt? path = none := by
  cases hl : fs.locate path with
  | error e => simp [fileAt?, hl]
  | ok l =>
    have hfile : fs.isFileAt l = false := by
      simpa [isFile, meets, hl] using (Bool.or_eq_false_iff.mp h).1
    exact (fileAt?_of_locate hl).trans (stored?_eq_none_iff.mpr hfile)

lemma entryAt?_congr (h : k.text = l.text) (fs : Files) : fs.entryAt? k = fs.entryAt? l := by
  unfold entryAt?
  rw [h]

/-- Only the location that is written changes. -/
lemma entryAt?_put (fs : Files) (l k : Location) (entry : Entry) :
    (fs.put l entry).entryAt? k = if k.text = l.text then some entry else fs.entryAt? k := by
  simp only [entryAt?, put, List.find?_append]
  by_cases heq : k.text = l.text
  · have hnone : (fs.entries.filter fun e => e.1 != l.text).find? (fun e => e.1 == l.text) = none :=
      List.find?_eq_none.mpr (by simp)
    rw [heq, hnone, if_pos rfl]
    simp
  · have hsame : (fs.entries.filter fun e => e.1 != l.text).find? (fun e => e.1 == k.text) =
        fs.entries.find? (fun e => e.1 == k.text) := by
      rw [List.find?_filter]
      congr 1
      funext e
      by_cases he : e.1 = k.text <;> simp [he, heq]
    rw [hsame, if_neg heq]
    simp [Ne.symm heq]

lemma stored?_put (fs : Files) (l k : Location) (contents : Blob) (executable : Bool) :
    (fs.put l (.file contents executable)).stored? k =
      if k.text = l.text then some (contents, executable) else fs.stored? k := by
  by_cases heq : k.text = l.text <;> simp [stored?, entryAt?_put, heq]

/-! ## Directories -/

lemma stored?_put_directory (h : fs.isFileAt l = false) (k : Location) :
    (fs.put l .directory).stored? k = fs.stored? k := by
  by_cases heq : k.text = l.text
  · have hold : fs.stored? k = none := by
      have hnone := stored?_eq_none_iff.mpr h
      unfold stored? at hnone ⊢
      rwa [entryAt?_congr heq]
    rw [hold]
    simp [stored?, entryAt?_put, heq]
  · simp [stored?, entryAt?_put, heq]

lemma isDirectoryAt_put_directory (h : fs.isDirectoryAt k = true) :
    (fs.put l .directory).isDirectoryAt k = true := by
  unfold isDirectoryAt at *
  rw [entryAt?_put]
  split
  · simp
  · exact h

/-- Directories are made one by one, each where no file was. -/
lemma makeAlong_induction {P : Files → Prop} {names : List String}
    (hput : ∀ fs l, P fs → fs.isFileAt l = false → P (fs.put l .directory)) (hfs : P fs)
    (h : fs.makeAlong l names = some gs) : P gs := by
  induction names generalizing fs l with
  | nil => exact Option.some.inj h ▸ hfs
  | cons name rest ih =>
    unfold makeAlong at h
    split at h
    · exact ih hfs h
    · dsimp only at h
      split at h
      · exact ih hfs h
      · split at h
        · cases h
        · next hfree =>
          exact ih (hput _ _ hfs (Bool.or_eq_false_iff.mp (Bool.eq_false_iff.mpr hfree)).1) h

lemma makeDirectories_induction {P : Files → Prop}
    (hput : ∀ fs l, P fs → fs.isFileAt l = false → P (fs.put l .directory)) (hfs : P fs)
    (h : fs.makeDirectories? path = some gs) : P gs := by
  unfold makeDirectories? at h
  split at h
  · exact Option.some.inj h ▸ hfs
  · split at h
    · cases h
    · dsimp only at h
      split at h
      · exact makeAlong_induction hput hfs (Option.eq_some_of_filter_eq_some h)
      · exact makeAlong_induction hput hfs h

/-- Making directories keeps every file. -/
theorem stored?_makeDirectories (h : fs.makeDirectories? path = some gs) (k : Location) :
    gs.stored? k = fs.stored? k :=
  makeDirectories_induction (P := fun made => made.stored? k = fs.stored? k)
    (fun _ _ hsame hfree => (stored?_put_directory hfree k).trans hsame) rfl h

/-- Making directories keeps every directory. -/
theorem isDirectoryAt_makeDirectories (h : fs.makeDirectories? path = some gs)
    (hk : fs.isDirectoryAt k = true) : gs.isDirectoryAt k = true :=
  makeDirectories_induction (P := fun made => made.isDirectoryAt k = true)
    (fun _ _ hkept _ => isDirectoryAt_put_directory hkept) hk h

/-! ## Files -/

lemma isDirectoryAt_put_file (hfree : fs.isDirectoryAt l = false)
    (h : fs.isDirectoryAt k = true) :
    (fs.put l (.file contents executable)).isDirectoryAt k = true := by
  unfold isDirectoryAt at *
  rw [entryAt?_put]
  by_cases heq : k.text = l.text
  · rw [entryAt?_congr heq] at h
    simp_all
  · rwa [if_neg heq]

/-- Ways lead where they led as long as all directories are kept. -/
lemma locate_of_directories {m : Location}
    (hkept : ∀ k, fs.isDirectoryAt k = true → gs.isDirectoryAt k = true)
    (h : fs.locate path = .ok m) : gs.locate path = .ok m := by
  have hstep : ∀ {k m part}, fs.step k part = .ok m → gs.step k part = .ok m := by
    intro k m part h
    unfold step at h ⊢
    cases hk : fs.isDirectoryAt k with
    | false => simp [hk] at h
    | true =>
      rw [hk, if_neg (by simp)] at h
      rw [hkept k hk, if_neg (by simp)]
      exact h
  obtain ⟨_,hcheck,hway⟩ := Result.bind_eq_ok_iff.mp h
  refine Result.bind_eq_ok_iff.mpr ⟨_,hcheck,?_⟩
  generalize Path.parts path = parts at hway ⊢
  generalize Path.base path = base at hway ⊢
  induction parts generalizing base with
  | nil => exact hway
  | cons part parts ih =>
    rw [List.foldlM_cons] at hway ⊢
    obtain ⟨next,hnext,hrest⟩ := Result.bind_eq_ok_iff.mp hway
    exact Result.bind_eq_ok_iff.mpr ⟨next,hstep hnext,ih next hrest⟩

theorem fileAt?_makeDirectories {other : String} {file : Blob × Bool}
    (h : fs.makeDirectories? path = some gs) (hfile : fs.fileAt? other = some file) :
    gs.fileAt? other = some file := by
  obtain ⟨l,hl,hstored⟩ := exists_locate_of_fileAt? hfile
  have hway := locate_of_directories (fun _ => isDirectoryAt_makeDirectories h) hl
  rw [fileAt?_of_locate hway, stored?_makeDirectories h, hstored]

theorem write?_eq_some_iff : fs.write? path contents executable = some gs ↔
    ∃ l, fs.locate path = .ok l ∧ fs.isDirectoryAt l = false ∧
      gs = fs.put l (.file contents executable) := by
  unfold write?
  cases fs.locate path with
  | error e => simp
  | ok l =>
    dsimp only
    constructor
    · intro h
      split at h
      · cases h
      · next hfree => exact ⟨l,rfl,Bool.eq_false_iff.mpr hfree,(Option.some.inj h).symm⟩
    · rintro ⟨_,hl,hfree,rfl⟩
      obtain rfl := Except.ok.inj hl
      simp [hfree]

/-- A file that was written stands where its path leads, before and after, and all other files are
what they were. -/
theorem stored?_write (h : fs.write? path contents executable = some gs) :
    ∃ l, fs.locate path = .ok l ∧ gs.locate path = .ok l ∧
      gs.stored? l = some (contents, executable) ∧
      ∀ k : Location, k.text ≠ l.text → gs.stored? k = fs.stored? k := by
  obtain ⟨l,hl,hfree,rfl⟩ := write?_eq_some_iff.mp h
  refine ⟨l,hl,locate_of_directories (fun _ => isDirectoryAt_put_file hfree) hl,?_,fun k hk => ?_⟩
  · rw [stored?_put, if_pos rfl]
  · rw [stored?_put, if_neg hk]

theorem fileAt?_write (h : fs.write? path contents executable = some gs) :
    gs.fileAt? path = some (contents, executable) := by
  obtain ⟨l,-,hl,hstored,-⟩ := stored?_write h
  exact (fileAt?_of_locate hl).trans hstored

end DeployCheck.Files
