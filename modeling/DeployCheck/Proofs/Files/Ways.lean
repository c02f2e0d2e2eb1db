import DeployCheck.Proofs.Files.Stored
import DeployCheck.Proofs.Text.Cuts

/-! Ways to the names in one directory. Such ways part only at their last name, so different names
lead to different places, and writing under one keeps the files under all others. -/
namespace DeployCheck

/-! ## Parts of joined paths -/

namespace Path

/-- A last part of a path that stands for an entry of the directory in front of it. -/
structure IsName (name : String) : Prop where
  slashless : '/' ∉ name.toList
  ne_empty : name ≠ ""
  ne_dot : name ≠ "."
  ne_dots : name ≠ ".."

variable {dir a b : String}

lemma isAbsolute_of_slashless (h : '/' ∉ a.toList) : isAbsolute a = false := by
  cases hcs : a.toList with
  | nil => simp [isAbsolute, Text.startsWith, hcs, Text.after?]
  | cons c cs =>
    have hc : '/' ≠ c := fun heq => h (hcs ▸ heq ▸ List.mem_cons_self)
    simp [isAbsolute, Text.startsWith, hcs, Text.after?, hc]

/-- What stands in front of a name that is joined to a directory. -/
def front (dir : String) : String :=
  if dir.isEmpty then "" else if Text.endsWith "/" dir then dir else dir ++ "/"

lemma join_eq_front_append (h : '/' ∉ a.toList) : join dir a = front dir ++ a := by
  unfold join front
  rw [isAbsolute_of_slashless h, Bool.false_or]
  split
  · simp
  · split <;> rfl

lemma join_left_injective (ha : '/' ∉ a.toList) (hb : '/' ∉ b.toList)
    (h : join dir a = join dir b) : a = b := by
  rw [join_eq_front_append ha, join_eq_front_append hb] at h
  exact (String.append_right_inj _).mp h

/-- What stands in front of a name is empty or ends in a slash. -/
lemma front_eq (dir : String) : front dir = "" ∨ ∃ lead, front dir = lead ++ "/" := by
  unfold front
  split
  · exact .inl rfl
  · split
    · next hslash =>
      obtain ⟨rest,hrest⟩ := Option.isSome_iff_exists.mp hslash
      refine .inr ⟨String.ofList rest,String.toList_inj.mp ?_⟩
      simpa using Text.before?_eq_some_iff.mp hrest
    · exact .inr ⟨dir,rfl⟩

/-- A name that is joined to a directory does not change where the way starts. -/
lemma base_join {dir name : String} (h : '/' ∉ name.toList) : base (join dir name) = base dir := by
  unfold base
  rw [join_eq_front_append h]
  cases hdir : dir.toList with
  | nil =>
    obtain rfl : dir = "" := String.toList_inj.mp hdir
    have hname : front "" ++ name = name := by simp [front]
    rw [hname, isAbsolute_of_slashless h]
    rfl
  | cons c cs =>
    have hfront : ∃ more, (front dir ++ name).toList = c :: more := by
      have hne : dir.isEmpty = false := by
        rw [← Bool.not_eq_true, String.isEmpty_iff]
        rintro rfl
        cases hdir
      unfold front
      rw [hne]
      split
      · contradiction
      · split
        · exact ⟨_,by rw [String.toList_append, hdir, List.cons_append]⟩
        · exact ⟨_,by rw [String.toList_append, String.toList_append, hdir, List.cons_append,
            List.cons_append]⟩
    obtain ⟨more,hmore⟩ := hfront
    have hsame : isAbsolute (front dir ++ name) = isAbsolute dir := by
      simp [isAbsolute, Text.startsWith, hmore, hdir, Text.after?, apply_ite Option.isSome]
    rw [hsame]

/-- The parts of a path that is joined to a directory are those of the directory and then the
name. -/
lemma parts_join (dir : String) : ∃ lead start, ∀ name : String, '/' ∉ name.toList →
    parts (join dir name) = lead ++ [name] ∧ base (join dir name) = start := by
  rcases front_eq dir with hfront | ⟨lead,hfront⟩
  · refine ⟨[],base dir,fun name hname => ⟨?_,base_join hname⟩⟩
    have hjoin : join dir name = name := by rw [join_eq_front_append hname, hfront]; simp
    rw [hjoin]
    simp [parts, Text.fields, Text.split_of_not_mem hname]
  · refine ⟨parts lead,base dir,fun name hname => ⟨?_,base_join hname⟩⟩
    have hjoin : (join dir name).toList = lead.toList ++ '/' :: name.toList := by
      rw [join_eq_front_append hname, hfront]; simp
    simp [parts, Text.fields, hjoin, Text.split_append_cons, Text.split_of_not_mem hname]

end Path

namespace Location

/-- Places in one directory have different texts. -/
lemma text_append_inj {d : Location} {a b : String} (h : text (d ++ [a]) = text (d ++ [b])) :
    a = b := by
  unfold text at h
  cases d with
  | nil => simpa using h
  | cons first rest =>
    have hname : ∀ name : String, String.intercalate "/" (first :: rest ++ [name]) =
        String.intercalate "/" (first :: rest) ++ "/" ++ name := fun name => by
      rw [String.intercalate_append_of_ne_nil (by simp) (by simp), String.intercalate_singleton]
    rw [hname, hname] at h
    exact (String.append_right_inj _).mp h

end Location

/-! ## Files in one directory -/

namespace Files

variable {fs gs : Files} {dir a b : String} {contents : Blob} {l m : Location}
  {executable : Bool}

lemma step_name (ha : Path.IsName a) (h : fs.step l a = .ok m) : m = l ++ [a] := by
  unfold step at h
  split at h
  · cases h
  · simp only [ha.ne_empty, ha.ne_dot, ha.ne_dots, or_self, if_false] at h
    split at h
    · cases h
    · exact (Except.ok.inj h).symm

/-- Ways to names in one directory lead to places that differ in those names alone. -/
lemma exists_of_locate_join (ha : Path.IsName a) (hb : Path.IsName b)
    (hl : fs.locate (Path.join dir a) = .ok l) (hm : fs.locate (Path.join dir b) = .ok m) :
    ∃ d, l = d ++ [a] ∧ m = d ++ [b] := by
  obtain ⟨lead,start,hparts⟩ := Path.parts_join dir
  have hway : ∀ {name k}, Path.IsName name → fs.locate (Path.join dir name) = .ok k →
      ∃ d, lead.foldlM fs.step start = .ok d ∧ k = d ++ [name] := by
    intro name k hname h
    obtain ⟨_,-,h⟩ := Result.bind_eq_ok_iff.mp h
    rw [(hparts name hname.slashless).1, (hparts name hname.slashless).2, List.foldlM_append] at h
    obtain ⟨d,hd,h⟩ := Result.bind_eq_ok_iff.mp h
    obtain ⟨k',hstep,h⟩ := Result.bind_eq_ok_iff.mp h
    obtain rfl := Except.ok.inj h
    exact ⟨d,hd,step_name hname hstep⟩
  obtain ⟨d,hd,rfl⟩ := hway ha hl
  obtain ⟨d',hd',rfl⟩ := hway hb hm
  obtain rfl := Except.ok.inj (hd.symm.trans hd')
  exact ⟨d,rfl,rfl⟩

/-- Writing under a name keeps the files under all other names of the directory. -/
theorem fileAt?_write_of_ne {file : Blob × Bool} (ha : Path.IsName a) (hb : Path.IsName b)
    (hne : b ≠ a) (h : fs.write? (Path.join dir a) contents executable = some gs)
    (hfile : fs.fileAt? (Path.join dir b) = some file) :
    gs.fileAt? (Path.join dir b) = some file := by
  obtain ⟨l,hl,-,-,hothers⟩ := stored?_write h
  obtain ⟨m,hm,hstored⟩ := exists_locate_of_fileAt? hfile
  have hway : gs.locate (Path.join dir b) = .ok m := by
    obtain ⟨_,-,hfree,rfl⟩ := write?_eq_some_iff.mp h
    exact locate_of_directories (fun _ => isDirectoryAt_put_file hfree) hm
  obtain ⟨d,rfl,rfl⟩ := exists_of_locate_join ha hb hl hm
  rw [fileAt?_of_locate hway, hothers _ fun heq => hne (Location.text_append_inj heq), hstored]

end Files

end DeployCheck
