import DeployCheck.Proofs.Files.Stored

/-! Places that paths pass. What a path leads to, and what is done there, depends on the entries at
these places only. So trees that agree on them stay in agreement, whatever else they hold. -/
namespace DeployCheck

/-! ## Ways -/

namespace Location

/-- The place that a part of a path leads to. -/
def onward (l : Location) (part : String) : Location :=
  if part = "" ∨ part = "." then l else if part = ".." then l.parent else l ++ [part]

/-- A place is passed on the way from a place along parts of a path; both its ends are. -/
inductive Along : Location → List String → Location → Prop
  | here {l : Location} {parts : List String} : Along l parts l
  | onward {l m : Location} {part : String} {parts : List String}
    (rest : Along (l.onward part) parts m) : Along l (part :: parts) m

variable {l m : Location} {parts : List String}

lemma Along.of_filter (h : Along l (parts.filter fun p => p != "" && p != ".") m) :
    Along l parts m := by
  induction parts generalizing l with
  | nil => exact h
  | cons part parts ih =>
    by_cases hpart : part = "" ∨ part = "."
    · have hstay : l.onward part = l := if_pos hpart
      rw [List.filter_cons_of_neg (by simpa [or_iff_not_imp_left] using hpart)] at h
      exact .onward (hstay.symm ▸ ih h)
    · rw [List.filter_cons_of_pos (by simpa [not_or] using hpart)] at h
      cases h with
      | here => exact .here
      | onward rest => exact .onward (ih rest)

lemma Along.of_dropLast (h : Along l parts.dropLast m) : Along l parts m := by
  induction parts generalizing l with
  | nil => exact h
  | cons part parts ih =>
    cases parts with
    | nil =>
      cases h
      exact .here
    | cons next parts =>
      rw [List.dropLast_cons_of_ne_nil (List.cons_ne_nil _ _)] at h
      cases h with
      | here => exact .here
      | onward rest => exact .onward (ih rest)

end Location

/-- A place is passed on the way of a path. -/
def Path.Passes (path : String) (l : Location) : Prop := (base path).Along (parts path) l

/-! ## Relative paths -/

lemma Text.not_mem_of_mem_split {sep : Char} {cs part : List Char} (h : part ∈ split sep cs) :
    sep ∉ part := by
  induction cs generalizing part with
  | nil =>
    obtain rfl := List.mem_singleton.mp h
    exact List.not_mem_nil
  | cons c cs ih =>
    unfold split at h
    split at h
    · rcases List.mem_cons.mp h with rfl | h
      · exact List.not_mem_nil
      · exact ih h
    · next hc =>
      obtain ⟨first,rest,hsplit⟩ := List.exists_cons_of_ne_nil (split_ne_nil sep cs)
      rw [hsplit] at h ih
      rcases List.mem_cons.mp h with rfl | h
      · exact List.not_mem_cons_of_ne_of_not_mem (Ne.symm hc) (ih List.mem_cons_self)
      · exact ih (List.mem_cons_of_mem _ h)

namespace Location

variable {l m : Location} {parts : List String}

/-- No name of a place has a slash or is empty, as that of the root is. -/
def IsRelative (l : Location) : Prop := ∀ name ∈ l, name ≠ "" ∧ '/' ∉ name.toList

lemma IsRelative.onward (h : l.IsRelative) {part : String} (hpart : '/' ∉ part.toList) :
    (l.onward part).IsRelative := by
  have happend : ∀ name, name ≠ "" ∧ '/' ∉ name.toList → IsRelative (l ++ [name]) :=
    fun name hname => List.forall_mem_append.mpr ⟨h,List.forall_mem_singleton.mpr hname⟩
  unfold Location.onward
  split
  · exact h
  · next hdot =>
    split
    · unfold parent
      split
      · exact h
      · split
        · exact happend _ ⟨by decide,by decide⟩
        · exact fun name hname => h name (List.dropLast_subset _ hname)
    · exact happend _ ⟨fun hempty => hdot (.inl hempty),hpart⟩

lemma Along.isRelative (h : Along l parts m) (hl : l.IsRelative)
    (hparts : ∀ part ∈ parts, '/' ∉ part.toList) : m.IsRelative := by
  induction h with
  | here => exact hl
  | onward _ ih =>
    obtain ⟨hpart,hrest⟩ := List.forall_mem_cons.mp hparts
    exact ih (hl.onward hpart) hrest

lemma IsRelative.text_ne (h : l.IsRelative) (rest : String) : l.text ≠ "/" ++ rest := by
  intro heq
  cases l with
  | nil => simpa [text] using congrArg String.toList heq
  | cons name later =>
    obtain ⟨hne,hslash⟩ := h name List.mem_cons_self
    obtain ⟨tail,htext⟩ : ∃ tail, text (name :: later) = name ++ tail := by
      cases later with
      | nil => exact ⟨"",by simp [text]⟩
      | cons next later =>
        refine ⟨"/" ++ text (next :: later),?_⟩
        unfold text
        rw [← List.singleton_append, String.intercalate_append_of_ne_nil (by simp) (by simp),
          String.intercalate_singleton, String.append_assoc]
    have hchars := congrArg String.toList (htext.symm.trans heq)
    rw [String.toList_append, String.toList_append] at hchars
    cases hname : name.toList with
    | nil => exact hne (String.toList_inj.mp hname)
    | cons c cs =>
      rw [hname] at hchars hslash
      exact hslash ((List.cons.inj hchars).1 ▸ List.mem_cons_self)

end Location

/-- The places that a relative path passes are relative, so their texts begin with no slash. -/
theorem Path.Passes.text_ne {path : String} {l : Location} (h : Passes path l)
    (hbase : base path = []) (rest : String) : l.text ≠ "/" ++ rest := by
  apply Location.IsRelative.text_ne
  apply Location.Along.isRelative h
  · rw [hbase]
    exact fun _ hname => absurd hname List.not_mem_nil
  · intro part hpart
    obtain ⟨cs,hcs,rfl⟩ := List.mem_map.mp hpart
    rw [String.toList_ofList]
    exact Text.not_mem_of_mem_split hcs

namespace Files

variable {fs gs : Files} {l m : Location} {path : String}

lemma step_onward {part : String} (h : fs.step l part = .ok m) : m = l.onward part := by
  unfold step at h
  unfold Location.onward
  split at h
  · cases h
  · split at h
    · next hdot => rw [if_pos hdot, Except.ok.inj h]
    · next hdot =>
      rw [if_neg hdot]
      split at h
      · next hup => rw [if_pos hup, Except.ok.inj h]
      · next hup =>
        split at h
        · cases h
        · rw [if_neg hup, Except.ok.inj h]

/-- A path passes the place that it leads to. -/
lemma passes_of_locate (h : fs.locate path = .ok l) : Path.Passes path l := by
  obtain ⟨_,-,hway⟩ := Result.bind_eq_ok_iff.mp h
  unfold Path.Passes
  generalize Path.parts path = parts at hway ⊢
  generalize Path.base path = base at hway ⊢
  induction parts generalizing base with
  | nil =>
    obtain rfl := Except.ok.inj hway
    exact .here
  | cons part parts ih =>
    rw [List.foldlM_cons] at hway
    obtain ⟨next,hnext,hrest⟩ := Result.bind_eq_ok_iff.mp hway
    obtain rfl := step_onward hnext
    exact .onward (ih _ hrest)

/-! ## Agreement -/

/-- Trees have the same entries at all places but some spare ones. -/
def AgreeOff (spare : String → Prop) (fs gs : Files) : Prop :=
  ∀ l : Location, ¬spare l.text → fs.entryAt? l = gs.entryAt? l

/-- Options that are related stay so if a test says the same of related values. -/
lemma rel_filter {α β : Type} {R : α → β → Prop} {p : α → Bool} {q : β → Bool} {a : Option α}
    {b : Option β} (h : Option.Rel R a b) (hpq : ∀ x y, R x y → p x = q y) :
    Option.Rel R (a.filter p) (b.filter q) := by
  cases h with
  | none => exact .none
  | some hxy =>
    rw [Option.filter_some, Option.filter_some, hpq _ _ hxy]
    split
    · exact .some hxy
    · exact .none

namespace AgreeOff

variable {spare : String → Prop} (h : AgreeOff spare fs gs)

include h

lemma put (l : Location) (entry : Entry) : AgreeOff spare (fs.put l entry) (gs.put l entry) := by
  intro k hk
  rw [entryAt?_put, entryAt?_put, h k hk]

lemma isDirectoryAt (hl : ¬spare l.text) : fs.isDirectoryAt l = gs.isDirectoryAt l := by
  unfold Files.isDirectoryAt
  rw [h l hl]

lemma isFileAt (hl : ¬spare l.text) : fs.isFileAt l = gs.isFileAt l := by
  unfold Files.isFileAt
  rw [h l hl]

lemma step (hl : ¬spare l.text) (part : String) : fs.step l part = gs.step l part := by
  unfold Files.step
  rw [h.isDirectoryAt hl, h.isFileAt hl]

lemma along (parts : List String) (hway : ∀ m, l.Along parts m → ¬spare m.text) :
    parts.foldlM fs.step l = parts.foldlM gs.step l := by
  induction parts generalizing l with
  | nil => rfl
  | cons part parts ih =>
    rw [List.foldlM_cons, List.foldlM_cons, h.step (hway l .here)]
    cases hnext : gs.step l part with
    | error e => rfl
    | ok next =>
      obtain rfl := step_onward hnext
      exact ih fun m hm => hway m (.onward hm)

section Way

variable (hway : ∀ m, Path.Passes path m → ¬spare m.text)

include hway

/-- A path leads to the same place in trees that agree where it passes. -/
lemma locate : fs.locate path = gs.locate path := by
  unfold Files.locate
  rw [h.along _ hway]

lemma isDirectory : fs.isDirectory path = gs.isDirectory path := by
  unfold Files.isDirectory meets
  rw [h.locate hway]
  cases hl : gs.locate path with
  | error e => rfl
  | ok l => exact h.isDirectoryAt (hway l (passes_of_locate hl))

theorem fileAt? : fs.fileAt? path = gs.fileAt? path := by
  cases hl : gs.locate path with
  | error e => simp only [Files.fileAt?, h.locate hway, hl]
  | ok l => simp only [Files.fileAt?, h.locate hway, hl, h l (hway l (passes_of_locate hl))]

/-- Writing keeps agreement and fails in both trees or in none. -/
theorem write (contents : Blob) (executable : Bool) : Option.Rel (AgreeOff spare)
    (fs.write? path contents executable) (gs.write? path contents executable) := by
  unfold Files.write?
  rw [h.locate hway]
  cases hl : gs.locate path with
  | error e => exact .none
  | ok l =>
    dsimp only
    rw [h.isDirectoryAt (hway l (passes_of_locate hl))]
    split
    · exact .none
    · exact .some (h.put l _)

end Way

lemma makeAlong {names : List String} (hnames : ∀ name ∈ names, ¬(name = "" ∨ name = "."))
    (hway : ∀ m, l.Along names m → ¬spare m.text) :
    Option.Rel (AgreeOff spare) (fs.makeAlong l names) (gs.makeAlong l names) := by
  induction names generalizing fs gs l with
  | nil => exact .some h
  | cons name names ih =>
    obtain ⟨hname,hrest⟩ := List.forall_mem_cons.mp hnames
    have hnext : ∀ m, (l.onward name).Along names m → ¬spare m.text :=
      fun m hm => hway m (.onward hm)
    unfold Location.onward at hnext
    rw [if_neg hname] at hnext
    unfold Files.makeAlong
    by_cases hup : name = ".."
    · rw [if_pos hup, if_pos hup]
      rw [if_pos hup] at hnext
      exact ih h hrest hnext
    · rw [if_neg hup] at hnext
      have hhere := hnext _ .here
      dsimp only
      rw [if_neg hup, if_neg hup, h.isDirectoryAt hhere, h.isFileAt hhere]
      split
      · exact ih h hrest hnext
      · split
        · exact .none
        · exact ih (h.put _ _) hrest hnext

/-- Making directories keeps agreement and fails in both trees or in none. -/
theorem makeDirectories (hway : ∀ m, Path.Passes path m → ¬spare m.text) :
    Option.Rel (AgreeOff spare) (fs.makeDirectories? path) (gs.makeDirectories? path) := by
  unfold Files.makeDirectories?
  split
  · exact .some h
  · cases Path.check path with
    | error e => exact .none
    | ok u =>
      have hnames : ∀ name ∈ Path.names path, ¬(name = "" ∨ name = ".") := fun name hname => by
        simpa [not_or] using (List.mem_filter.mp hname).2
      dsimp only
      split
      · have hmade := h.makeAlong
          (fun name hname => hnames name (List.dropLast_subset _ hname))
          fun m hm => hway m hm.of_dropLast.of_filter
        exact rel_filter hmade fun made made' hsame => hsame.isDirectory hway
      · exact h.makeAlong hnames fun m hm => hway m hm.of_filter

end AgreeOff

end Files

end DeployCheck
