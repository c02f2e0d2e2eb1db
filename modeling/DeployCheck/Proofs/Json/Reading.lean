import DeployCheck.Json.Parser
import DeployCheck.Proofs.Json.Maps
import DeployCheck.Proofs.Json.Scalars

/-! Values are read back from compact text. A container is read back by any reader that looks at
all its parts, and a value of 64-bit integers and unique keys by one that looks at everything. -/
namespace DeployCheck.Json

/-- Numbers are 64-bit integers, and no object holds a key twice, at every depth. -/
inductive Exact : Json → Prop
  | null : Exact .null
  | bool (b : Bool) : Exact (.bool b)
  | int {n : Int} (h : FitsWord n) : Exact (.int n)
  | str (s : String) : Exact (.str s)
  | arr {items : List Json} (h : ∀ j ∈ items, Exact j) : Exact (.arr items)
  | obj {members : List (String × Json)} (keys : (members.map Prod.fst).Nodup)
    (h : ∀ m ∈ members, Exact m.2) : Exact (.obj members)

/-- A reader of a shape takes exactly the compact text of a value. -/
def Reads (depth : Nat) (shape : Shape) (j : Json) : Prop :=
  ∀ ⦃fuel : Nat⦄ ⦃rest : List Char⦄, j.write.length < fuel → Closes rest →
    value fuel depth shape (j.write ++ rest) = some (j, rest)

variable {depth fuel : Nat} {shape : Shape} {j : Json}

lemma skipSpace_cons {c : Char} (h : isSpace c = false) (cs : List Char) :
    skipSpace (c :: cs) = c :: cs := by
  simp [skipSpace, h]

/-! ## Scalars -/

/-- How a value that opens no container begins. -/
def StartsScalar (c : Char) : Prop := c ∈ ['n', 't', 'f', '"', '-'] ∨ c.isDigit = true

instance : DecidablePred StartsScalar := fun c =>
  inferInstanceAs (Decidable (c ∈ ['n', 't', 'f', '"', '-'] ∨ c.isDigit = true))

lemma StartsScalar.distinct {c : Char} (h : StartsScalar c) :
    isSpace c = false ∧ c ∉ ['[', ']', '\x7b'] := by
  have hne : ∀ other, ¬StartsScalar other → c ≠ other := by
    rintro other hother rfl
    exact hother h
  constructor
  · simp [isSpace, hne ' ' (by decide), hne '\n' (by decide), hne '\t' (by decide),
      hne '\r' (by decide)]
  · simp [hne '[' (by decide), hne ']' (by decide), hne '\x7b' (by decide)]

lemma value_eq_scalar {c : Char} (h : StartsScalar c) (cs : List Char) :
    value fuel depth shape (c :: cs) = scalar fuel (c :: cs) := by
  obtain ⟨hspace,hbracket⟩ := h.distinct
  unfold value
  rw [skipSpace_cons hspace]
  split <;> simp_all

lemma reads_of_scalar {c : Char} {cs : List Char} (hstart : StartsScalar c)
    (hwrite : j.write = c :: cs)
    (hscalar : ∀ {fuel rest}, j.write.length < fuel → Closes rest →
      scalar fuel (j.write ++ rest) = some (j, rest)) : Reads depth shape j := by
  intro fuel rest hfuel hrest
  rw [← hscalar hfuel hrest, hwrite]
  exact value_eq_scalar hstart _

/-! ## Lengths -/

/-- A member as it is written. -/
def entryText (m : String × Json) : List Char := quoted m.1 ++ ':' :: m.2.write

lemma writeItems_eq (items : List Json) :
    writeItems items = [','].intercalate (items.map write) := by
  induction items with
  | nil => rfl
  | cons j items ih =>
    cases items with
    | nil => simp [writeItems]
    | cons next later => simpa [writeItems, List.intercalate_cons_cons] using ih

lemma writeMembers_eq (ms : List (String × Json)) :
    writeMembers ms = [','].intercalate (ms.map entryText) := by
  induction ms with
  | nil => rfl
  | cons m ms ih =>
    cases ms with
    | nil => simp [writeMembers, entryText]
    | cons next later => simpa [writeMembers, entryText, List.intercalate_cons_cons] using ih

lemma length_le_intercalate (parts : List (List Char)) :
    parts.length ≤ ([','].intercalate parts).length + 1 := by
  induction parts with
  | nil => simp
  | cons part parts ih =>
    cases parts with
    | nil => simp
    | cons next later =>
      simp only [List.intercalate_cons_cons, List.length_append, List.length_cons] at ih ⊢
      omega

lemma length_le_of_mem {part : List Char} {parts : List (List Char)} (h : part ∈ parts) :
    part.length ≤ ([','].intercalate parts).length := by
  induction parts with
  | nil => simp at h
  | cons first parts ih =>
    cases parts with
    | nil => simp_all
    | cons next later =>
      simp only [List.intercalate_cons_cons, List.length_append]
      rcases List.mem_cons.mp h with rfl | hlater
      · omega
      · have := ih hlater
        omega

lemma length_le_quoted (s : String) : s.toList.length + 2 ≤ (quoted s).length := by
  have hescape : ∀ c, 1 ≤ (escape c).length := by
    intro c
    unfold escape
    split_ifs <;> simp
  have hbody : s.toList.length ≤ (s.toList.flatMap escape).length := by
    induction s.toList with
    | nil => simp
    | cons c cs ih =>
      have hc := hescape c
      simp only [List.flatMap_cons, List.length_append, List.length_cons]
      omega
  simpa [quoted] using hbody

/-- The text of an array is longer than that of each item, and has more characters than there are
items. -/
lemma lengths_of_array (items : List Json) :
    items.length < (Json.arr items).write.length ∧
      ∀ j ∈ items, j.write.length < (Json.arr items).write.length := by
  have hwrite : (Json.arr items).write.length = (writeItems items).length + 2 := by simp [write]
  rw [hwrite, writeItems_eq]
  constructor
  · have := length_le_intercalate (items.map write)
    simp only [List.length_map] at this
    omega
  · intro j hj
    have := length_le_of_mem (List.mem_map_of_mem (f := write) hj)
    omega

/-- The text of an object is longer than the key and the text of each member, and has more
characters than there are members. -/
lemma lengths_of_object (ms : List (String × Json)) :
    ms.length < (Json.obj ms).write.length ∧
      ∀ m ∈ ms, m.1.toList.length < (Json.obj ms).write.length ∧
        m.2.write.length < (Json.obj ms).write.length := by
  have hwrite : (Json.obj ms).write.length = (writeMembers ms).length + 2 := by simp [write]
  rw [hwrite, writeMembers_eq]
  constructor
  · have := length_le_intercalate (ms.map entryText)
    simp only [List.length_map] at this
    omega
  · intro m hm
    have hentry := length_le_of_mem (List.mem_map_of_mem (f := entryText) hm)
    have hkey := length_le_quoted m.1
    simp only [entryText, List.length_append, List.length_cons] at hentry
    omega

/-! ## Arrays -/

lemma writeItems_cons_cons (j next : Json) (later : List Json) :
    writeItems (j :: next :: later) = j.write ++ ',' :: writeItems (next :: later) := by
  simp [writeItems]

lemma items_writeItems {item : Nat → Reader Json} {js : List Json} (hne : js ≠ [])
    (h : ∀ i, ∀ j ∈ js, ∀ rest, Closes rest → item i (j.write ++ rest) = some (j, rest))
    (hfuel : js.length ≤ fuel) (i : Nat) (rest : List Char) :
    items item fuel i (writeItems js ++ ']' :: rest) = some (js, rest) := by
  induction js generalizing fuel i with
  | nil => contradiction
  | cons j js ih =>
    -- an item is closed by the comma or the bracket behind it
    obtain ⟨fuel,rfl⟩ := Nat.exists_eq_add_one.mpr (Nat.zero_lt_of_lt hfuel)
    cases js with
    | nil =>
      have hitem := h i j (by simp) (']' :: rest) (.cons rest (by simp))
      simp [items, writeItems, hitem, skipSpace, isSpace]
    | cons next later =>
      have hitem := h i j (by simp) (',' :: (writeItems (next :: later) ++ ']' :: rest))
        (.cons _ (by simp))
      have hlater := ih (by simp) (fun i j hj => h i j (List.mem_cons_of_mem _ hj))
        (Nat.le_of_succ_le_succ hfuel) (i + 1)
      rw [writeItems_cons_cons, List.append_assoc, List.cons_append]
      simp [items, hitem, hlater, skipSpace, isSpace]

lemma arrayBody_cons {item : Nat → Reader Json} {c : Char} (hspace : isSpace c = false)
    (hne : c ≠ ']') (cs : List Char) :
    arrayBody fuel item (c :: cs) =
      (items item fuel 0 (c :: cs)).map fun p => (.arr p.1, p.2) := by
  unfold arrayBody
  rw [skipSpace_cons hspace]
  split
  · simp_all
  · rfl

theorem reads_array {items : List Json}
    (hstart : ∀ j ∈ items, ∃ c cs, j.write = c :: cs ∧ isSpace c = false ∧ c ≠ ']')
    (h : ∀ j ∈ items, ∀ i, Reads depth (shape.item i) j) :
    Reads (depth + 1) shape (.arr items) := by
  intro fuel rest hfuel hrest
  obtain ⟨hcount,hshorter⟩ := lengths_of_array items
  have htext : (Json.arr items).write ++ rest = '[' :: (writeItems items ++ ']' :: rest) := by
    simp [write]
  have hitems : items ≠ [] → Json.items (fun i => value fuel depth (shape.item i)) fuel 0
      (writeItems items ++ ']' :: rest) = some (items, rest) := by
    intro hne
    refine items_writeItems hne (fun i j hj rest hrest => h j hj i ?_ hrest) (by omega) 0 rest
    exact Nat.lt_trans (hshorter j hj) hfuel
  rw [htext]
  unfold value
  rw [skipSpace_cons rfl]
  change arrayBody _ _ _ = _
  cases items with
  | nil => simp [arrayBody, writeItems, skipSpace, isSpace]
  | cons j js =>
    obtain ⟨c,cs,hwrite,hspace,hne⟩ := hstart j (by simp)
    obtain ⟨tail,htail⟩ : ∃ tail, writeItems (j :: js) = c :: tail := by
      cases js <;> simp [writeItems, hwrite]
    have hread := hitems (by simp)
    rw [htail, List.cons_append] at hread ⊢
    rw [arrayBody_cons hspace hne, hread]
    rfl

/-! ## Objects -/

lemma writeMembers_cons_cons (m next : String × Json) (later : List (String × Json)) :
    writeMembers (m :: next :: later) =
      quoted m.1 ++ ':' :: m.2.write ++ ',' :: writeMembers (next :: later) := by
  simp [writeMembers]

lemma key_quoted {name : String} (h : name.toList.length < fuel) (rest : List Char) :
    key fuel (quoted name ++ ':' :: rest) = some (name, rest) := by
  have htext : quoted name ++ ':' :: rest =
      '"' :: (name.toList.flatMap escape ++ '"' :: ':' :: rest) := by simp [quoted]
  rw [htext]
  simp [key, skipSpace, isSpace, stringBody, stringChars_escaped h, Text.after?]

lemma member_quoted {item? : String → Option (Reader Json)} {item : Reader Json} {name : String}
    {rest after : List Char} (hname : name.toList.length < fuel) (hitem : item? name = some item)
    (hread : item rest = some (j, after)) :
    member fuel item? (quoted name ++ ':' :: rest) = some (some (name, j), after) := by
  simp [member, key_quoted hname, hitem, hread]

lemma members_writeMembers {entry : Reader (Option (String × Json))} {ms : List (String × Json)}
    (hne : ms ≠ []) (h : ∀ m ∈ ms, ∀ rest, Closes rest →
      entry (quoted m.1 ++ ':' :: (m.2.write ++ rest)) = some (some m, rest))
    (hfuel : ms.length ≤ fuel) (rest : List Char) :
    members entry fuel (writeMembers ms ++ '\x7d' :: rest) = some (ms, rest) := by
  induction ms generalizing fuel with
  | nil => contradiction
  | cons m ms ih =>
    obtain ⟨fuel,rfl⟩ := Nat.exists_eq_add_one.mpr (Nat.zero_lt_of_lt hfuel)
    cases ms with
    | nil =>
      have hentry := h m (by simp) ('\x7d' :: rest) (.cons rest (by simp))
      simp [members, writeMembers, hentry, skipSpace, isSpace]
    | cons next later =>
      have hentry := h m (by simp) (',' :: (writeMembers (next :: later) ++ '\x7d' :: rest))
        (.cons _ (by simp))
      have hlater := ih (by simp) (fun m hm => h m (List.mem_cons_of_mem _ hm))
        (Nat.le_of_succ_le_succ hfuel)
      rw [writeMembers_cons_cons]
      simp [members, hentry, hlater, skipSpace, isSpace]

/-- An object is read back by a reader that looks at all its members. -/
theorem reads_object {ms : List (String × Json)}
    (h : ∀ m ∈ ms, ∃ inner, shape.member? m.1 = some inner ∧ Reads depth inner m.2) :
    Reads (depth + 1) shape (.obj ms) := by
  intro fuel rest hfuel hrest
  obtain ⟨hcount,hshorter⟩ := lengths_of_object ms
  have htext : (Json.obj ms).write ++ rest = '\x7b' :: (writeMembers ms ++ '\x7d' :: rest) := by
    simp [write]
  have hmembers : ms ≠ [] → members (member fuel fun name =>
      (shape.member? name).map (value fuel depth)) fuel (writeMembers ms ++ '\x7d' :: rest) =
        some (ms, rest) := by
    intro hne
    refine members_writeMembers hne (fun m hm after hafter => ?_) (by omega) rest
    obtain ⟨inner,hinner,hreads⟩ := h m hm
    obtain ⟨hkey,hvalue⟩ := hshorter m hm
    exact member_quoted (by omega) (by rw [hinner]; rfl) (hreads (by omega) hafter)
  rw [htext]
  unfold value
  rw [skipSpace_cons rfl]
  change objectBody _ _ _ = _
  cases ms with
  | nil => simp [objectBody, writeMembers, skipSpace, isSpace]
  | cons m later =>
    obtain ⟨tail,htail⟩ : ∃ tail, writeMembers (m :: later) = '"' :: tail := by
      cases later <;> simp [writeMembers, quoted]
    have hread := hmembers (by simp)
    rw [htail, List.cons_append] at hread ⊢
    simp [objectBody, skipSpace, isSpace, hread]

/-! ## Whole values -/

lemma exists_start_int (n : Int) : ∃ c cs, (toString n).toList = c :: cs ∧ StartsScalar c := by
  cases n with
  | ofNat n =>
    obtain ⟨d,ds,hds⟩ := List.exists_cons_of_ne_nil (Nat.toDigits_ne_nil (b := 10) (n := n))
    refine ⟨d,ds,?_,.inr (Text.isDigit_of_mem_toDigits (n := n) d (by simp [hds]))⟩
    rw [toList_ofNat, hds]
  | negSucc n => exact ⟨'-',_,toList_negSucc n,.inl (by simp)⟩

lemma Exact.start (h : j.Exact) : ∃ c cs, j.write = c :: cs ∧ isSpace c = false ∧ c ≠ ']' := by
  have hscalar : ∀ {c}, StartsScalar c → isSpace c = false ∧ c ≠ ']' := fun h =>
    ⟨h.distinct.1,fun heq => h.distinct.2 (by simp [heq])⟩
  cases h with
  | null => exact ⟨'n',_,rfl,by decide⟩
  | bool b => cases b <;> exact ⟨_,_,rfl,by decide⟩
  | @int n =>
    obtain ⟨c,cs,hwrite,hstart⟩ := exists_start_int n
    exact ⟨c,cs,hwrite,hscalar hstart⟩
  | str s => exact ⟨'"',_,rfl,by decide⟩
  | arr => exact ⟨'[',_,rfl,by decide⟩
  | obj => exact ⟨'\x7b',_,rfl,by decide⟩

lemma depth_le_of_mem_items {items : List Json} (h : j ∈ items) : j.depth ≤ depthItems items := by
  induction items with
  | nil => simp at h
  | cons first items ih =>
    rw [depthItems]
    rcases List.mem_cons.mp h with rfl | hlater
    · exact Nat.le_max_left _ _
    · exact Nat.le_trans (ih hlater) (Nat.le_max_right _ _)

lemma depth_le_of_mem_members {ms : List (String × Json)} {m : String × Json} (h : m ∈ ms) :
    m.2.depth ≤ depthMembers ms := by
  induction ms with
  | nil => simp at h
  | cons first ms ih =>
    rw [depthMembers]
    rcases List.mem_cons.mp h with rfl | hlater
    · exact Nat.le_max_left _ _
    · exact Nat.le_trans (ih hlater) (Nat.le_max_right _ _)

/-- Values of integers are read back where that many containers may nest. -/
theorem Exact.reads (h : j.Exact) (hdepth : j.depth ≤ depth) : Reads depth .whole j := by
  induction h generalizing depth with
  | null =>
    exact reads_of_scalar (c := 'n') (.inl (by simp)) rfl fun _ _ => by
      simp [write, scalar, Text.after?]
  | bool b =>
    cases b with
    | true =>
      exact reads_of_scalar (c := 't') (.inl (by simp)) rfl fun _ _ => by
        simp [write, scalar, Text.after?]
    | false =>
      exact reads_of_scalar (c := 'f') (.inl (by simp)) rfl fun _ _ => by
        simp [write, scalar, Text.after?]
  | @int n hn =>
    obtain ⟨c,cs,hwrite,hstart⟩ := exists_start_int n
    exact reads_of_scalar hstart hwrite fun _ hrest => scalar_int hn _ hrest
  | str s =>
    refine reads_of_scalar (c := '"') (.inl (by simp)) rfl fun hfuel _ => ?_
    have hlength : s.toList.length + 2 ≤ (Json.str s).write.length := length_le_quoted s
    exact scalar_quoted (by omega) _
  | arr hitems ih =>
    obtain ⟨depth,rfl⟩ := Nat.exists_eq_add_one.mpr (Nat.zero_lt_of_lt hdepth)
    refine reads_array (fun j hj => (hitems j hj).start) fun j hj _ => ih j hj ?_
    exact Nat.le_trans (depth_le_of_mem_items hj) (Nat.le_of_succ_le_succ hdepth)
  | obj _ _ ih =>
    obtain ⟨depth,rfl⟩ := Nat.exists_eq_add_one.mpr (Nat.zero_lt_of_lt hdepth)
    refine reads_object fun m hm => ⟨.whole,rfl,ih m hm ?_⟩
    exact Nat.le_trans (depth_le_of_mem_members hm) (Nat.le_of_succ_le_succ hdepth)

/-- What is read back inside any text is read back from a text of its own. -/
theorem parseAs?_compact (h : Reads 127 shape j) : parseAs? shape j.compact = some j := by
  have hread := h (Nat.lt_succ_self _) .nil
  rw [List.append_nil] at hread
  simp [parseAs?, compact, hread, skipSpace]

/-! ## Unique keys -/

lemma mergedItems_eq {items : List Json} (h : ∀ j ∈ items, j.merged = j) :
    mergedItems items = items := by
  induction items with
  | nil => rfl
  | cons j items ih =>
    rw [List.forall_mem_cons] at h
    rw [mergedItems, h.1, ih h.2]

lemma mergedMembers_eq {ms : List (String × Json)} (h : ∀ m ∈ ms, m.2.merged = m.2) :
    mergedMembers ms = ms := by
  induction ms with
  | nil => rfl
  | cons m ms ih =>
    rw [List.forall_mem_cons] at h
    rw [mergedMembers, h.1, ih h.2]

theorem Exact.merged_eq (h : j.Exact) : j.merged = j := by
  induction h with
  | null | bool | int | str => rfl
  | arr _ ih => rw [merged, mergedItems_eq ih]
  | obj keys _ ih => rw [merged, mergedMembers_eq ih, insertAll_of_nodup keys]

theorem Exact.parse?_compact (h : j.Exact) (hdepth : j.depth ≤ 127) :
    parse? j.compact = some j := by
  rw [parse?, parseAs?_compact (h.reads hdepth), Option.map_some, h.merged_eq]

end DeployCheck.Json
