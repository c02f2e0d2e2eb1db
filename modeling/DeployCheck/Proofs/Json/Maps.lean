import DeployCheck.Json.Record
import Mathlib.Data.List.Induction
import Mathlib.Data.List.Nodup

/-! Ordered maps hold a key once, and entries of different keys are a map as they are. A repeated
key keeps its first position and takes its last value. Every entry is found under its key, and a
record takes them all as its fields. -/
namespace DeployCheck.Json

variable {α : Type}

lemma mem_keys_insert {key other : String} {value : α} {m : List (String × α)} :
    other ∈ (insert key value m).map Prod.fst ↔ other = key ∨ other ∈ m.map Prod.fst := by
  induction m with
  | nil => simp [insert]
  | cons e rest ih =>
    rw [insert]
    split
    · next hkey => simp [← hkey]
    · simp only [List.map_cons, List.mem_cons, ih]
      exact or_left_comm

lemma nodup_keys_insert {m : List (String × α)} (h : (m.map Prod.fst).Nodup) (key : String)
    (value : α) : ((insert key value m).map Prod.fst).Nodup := by
  induction m with
  | nil => simp [insert]
  | cons e rest ih =>
    obtain ⟨hnew,hrest⟩ := List.nodup_cons.mp h
    rw [insert]
    split
    · exact h
    · next hne =>
      refine List.nodup_cons.mpr ⟨?_,ih hrest⟩
      rw [mem_keys_insert]
      exact not_or.mpr ⟨hne,hnew⟩

lemma nodup_keys_foldl_insert (entries : List (String × α)) {m : List (String × α)}
    (h : (m.map Prod.fst).Nodup) :
    ((entries.foldl (fun m e => insert e.1 e.2 m) m).map Prod.fst).Nodup := by
  induction entries generalizing m with
  | nil => exact h
  | cons e entries ih => exact ih (nodup_keys_insert h e.1 e.2)

theorem nodup_keys_insertAll (entries : List (String × α)) :
    ((insertAll entries).map Prod.fst).Nodup :=
  nodup_keys_foldl_insert entries List.nodup_nil

lemma insert_of_not_mem {key : String} {m : List (String × α)} (h : key ∉ m.map Prod.fst)
    (value : α) : insert key value m = m ++ [(key, value)] := by
  induction m with
  | nil => rfl
  | cons e m ih =>
    obtain ⟨hne,hrest⟩ := not_or.mp (List.mem_cons.not.mp h)
    simp [insert, Ne.symm hne, ih hrest]

lemma insertAll_concat (entries : List (String × α)) (e : String × α) :
    insertAll (entries ++ [e]) = insert e.1 e.2 (insertAll entries) := by
  simp [insertAll]

/-- Entries of different keys are an ordered map as they are. -/
theorem insertAll_of_nodup {m : List (String × α)} (h : (m.map Prod.fst).Nodup) :
    insertAll m = m := by
  -- maps are written from the left, so the last entry comes off first
  induction m using List.reverseRecOn with
  | nil => rfl
  | append_singleton m e ih =>
    rw [List.map_append, List.nodup_append] at h
    have hnew : e.1 ∉ m.map Prod.fst := fun hmem => h.2.2 _ hmem e.1 (by simp) rfl
    rw [insertAll_concat, ih h.1, insert_of_not_mem hnew]

lemma lookup_eq_some_of_mem {m : List (String × α)} (hkeys : (m.map Prod.fst).Nodup) {key : String}
    {value : α} (h : (key, value) ∈ m) : lookup key m = some value := by
  induction m with
  | nil => simp at h
  | cons e m ih =>
    obtain ⟨hnew,hrest⟩ := List.nodup_cons.mp hkeys
    rcases List.mem_cons.mp h with rfl | hlater
    · simp [lookup]
    · have hne : e.1 ≠ key := fun heq => hnew (heq ▸ List.mem_map_of_mem (f := Prod.fst) hlater)
      simp [lookup, hne, ih hrest hlater]

lemma lookup_eq_none {m : List (String × α)} {key : String} (h : key ∉ m.map Prod.fst) :
    lookup key m = none := by
  induction m with
  | nil => rfl
  | cons e m ih =>
    obtain ⟨hne,hrest⟩ := not_or.mp (List.mem_cons.not.mp h)
    simp [lookup, Ne.symm hne, ih hrest]

lemma mem_of_lookup {m : List (String × α)} {key : String} {value : α}
    (h : lookup key m = some value) : (key, value) ∈ m := by
  induction m with
  | nil => cases h
  | cons e m ih =>
    rw [lookup] at h
    split at h
    · next hkey =>
      obtain rfl := Option.some.inj h
      exact hkey ▸ List.mem_cons_self
    · exact List.mem_cons_of_mem _ (ih h)

/-! ## Repeated keys -/

/-- An ordered map holds what a list of entries says: a repeated key stands at its first position,
with the value that is listed last. -/
structure Gathers (entries m : List (String × α)) : Prop where
  keys : m.map Prod.fst = (entries.map Prod.fst).eraseDups
  mem_iff : ∀ key value, (key, value) ∈ m ↔ lookup key entries.reverse = some value

lemma keys_insert (key : String) (value : α) (m : List (String × α)) :
    (insert key value m).map Prod.fst =
      if key ∈ m.map Prod.fst then m.map Prod.fst else m.map Prod.fst ++ [key] := by
  induction m with
  | nil => simp [insert]
  | cons e m ih =>
    by_cases hkey : e.1 = key
    · simp [insert, hkey]
    · simp only [insert, if_neg hkey, List.map_cons, List.mem_cons, Ne.symm hkey, false_or, ih]
      split <;> rfl

lemma keys_insertAll (entries : List (String × α)) :
    (insertAll entries).map Prod.fst = (entries.map Prod.fst).eraseDups := by
  induction entries using List.reverseRecOn with
  | nil => rfl
  | append_singleton entries e ih =>
    -- the entry written last adds its key only if no other entry has it
    rw [insertAll_concat, keys_insert, ih, List.map_append, List.eraseDups_append]
    simp only [List.mem_eraseDups, List.map_cons, List.map_nil]
    split
    · next hold => simp [List.removeAll, hold]
    · next hnew => simp [List.removeAll, hnew, List.eraseDups_cons]

lemma lookup_insertAll (key : String) (entries : List (String × α)) :
    lookup key (insertAll entries) = lookup key entries.reverse := by
  induction entries using List.reverseRecOn with
  | nil => rfl
  | append_singleton entries e ih =>
    rw [insertAll_concat, List.reverse_append, List.reverse_singleton, List.singleton_append,
      lookup]
    split
    · next hkey => rw [hkey, lookup_insert]
    · next hkey => rw [lookup_insert_of_ne (Ne.symm hkey), ih]

/-- Written from left to right, entries are gathered. -/
theorem gathers_insertAll (entries : List (String × α)) : Gathers entries (insertAll entries) where
  keys := keys_insertAll entries
  mem_iff key value := by
    rw [← lookup_insertAll]
    exact ⟨lookup_eq_some_of_mem (nodup_keys_insertAll entries),mem_of_lookup⟩

/-- Writing an entry keeps all entries under other keys, in order. -/
lemma filter_insert (key : String) (value : α) (m : List (String × α)) :
    (insert key value m).filter (fun e => e.1 != key) = m.filter fun e => e.1 != key := by
  induction m with
  | nil => simp [insert]
  | cons e m ih =>
    by_cases hkey : e.1 = key <;> simp [insert, hkey, ih]

lemma noRepeats_of_nodup {names : List String} {members : List (String × Json)}
    (hkeys : (members.map Prod.fst).Nodup) : noRepeats names members = true := by
  refine List.all_eq_true.mpr fun name _ => decide_eq_true ?_
  have hcount := List.nodup_iff_count_le_one.mp hkeys name
  rwa [List.count_eq_countP, List.countP_map, List.countP_eq_length_filter] at hcount

/-- An object of a record's fields is read as these fields. -/
theorem fields?_obj {names : List String} {members : List (String × Json)} (required : Nat)
    (hkeys : (members.map Prod.fst).Nodup) (hnames : ∀ m ∈ members, m.1 ∈ names) :
    fields? names required (.obj members) = some members := by
  have hknown : members.filter (fun m => names.contains m.1) = members :=
    List.filter_eq_self.mpr fun m hm => by simpa using hnames m hm
  simp only [fields?, hknown, noRepeats_of_nodup hkeys, if_true]

end DeployCheck.Json
