import DeployCheck.Bytecode.Immutables
import Mathlib.Data.List.Induction
import Mathlib.Tactic.Common

/-! Which spans immutable slots meet. Where no end reaches over the last word, a filled region meets a
span where the two share a byte, an empty one where it lies strictly inside. Of a compiler's report
the last region of each start is kept, so all of them are unless an empty one takes the place of
another. -/
namespace DeployCheck.Bytecode.Immutables

/-- Some region holds the position. -/
def Covers (refs : Immutables) (position : Nat) : Prop :=
  ∃ r ∈ refs, r.1 ≤ position ∧ position < r.1 + r.2

/-- The ends of all regions are words. -/
def EndInWords (refs : Immutables) : Prop := ∀ r ∈ refs, r.1 + r.2 < Text.wordBound

lemma stop_le (start length : Nat) : stop start length ≤ start + length := Nat.mod_le _ _

lemma stop_of_lt {start length : Nat} (h : start + length < Text.wordBound) :
    stop start length = start + length := Nat.mod_eq_of_lt h

lemma overlaps_iff (refs : Immutables) (start length : Nat) :
    refs.overlaps start length = true ↔
      ∃ r ∈ refs, r.1 < stop start length ∧ start < stop r.1 r.2 := by
  simp [overlaps, List.any_eq_true]

/-- What meets a span lies in front of its end, and stops behind its start. -/
lemma exists_of_overlaps {refs : Immutables} {start length : Nat}
    (h : refs.overlaps start length = true) :
    ∃ r ∈ refs, r.1 < start + length ∧ start < r.1 + r.2 := by
  obtain ⟨r,hr,hlo,hhi⟩ := (overlaps_iff _ _ _).mp h
  exact ⟨r,hr,Nat.lt_of_lt_of_le hlo (stop_le _ _),Nat.lt_of_lt_of_le hhi (stop_le _ _)⟩

lemma overlaps_iff_of_endInWords {refs : Immutables} (h : refs.EndInWords) {start length : Nat}
    (hspan : start + length < Text.wordBound) : refs.overlaps start length = true ↔
      ∃ r ∈ refs, r.1 < start + length ∧ start < r.1 + r.2 := by
  refine ⟨exists_of_overlaps,fun ⟨r,hr,hlo,hhi⟩ => (overlaps_iff _ _ _).mpr ⟨r,hr,?_⟩⟩
  rw [stop_of_lt hspan, stop_of_lt (h r hr)]
  exact ⟨hlo,hhi⟩

/-! ## Common bytes -/

/-- A region meets a span in a byte of both, or as an empty region strictly inside the span. -/
lemma meets_iff {r : Nat × Nat} {start length : Nat} (hlength : 1 ≤ length) :
    r.1 < start + length ∧ start < r.1 + r.2 ↔
      (∃ b, start ≤ b ∧ b < start + length ∧ r.1 ≤ b ∧ b < r.1 + r.2) ∨
        r.2 = 0 ∧ start < r.1 ∧ r.1 < start + length := by
  constructor
  · rintro ⟨hlo,hhi⟩
    by_cases hempty : r.2 = 0
    · exact .inr ⟨hempty,by omega,hlo⟩
    · -- the later of the two starts lies in both
      exact .inl ⟨max start r.1,by omega,by omega,by omega,by omega⟩
  · rintro (⟨b,_,_,_,_⟩ | ⟨_,_,_⟩) <;> omega

theorem overlaps_iff_covers {refs : Immutables} (h : refs.EndInWords) {start length : Nat}
    (hlength : 1 ≤ length) (hspan : start + length < Text.wordBound) :
    refs.overlaps start length = true ↔
      (∃ b, start ≤ b ∧ b < start + length ∧ refs.Covers b) ∨
        ∃ s, (s,0) ∈ refs ∧ start < s ∧ s < start + length := by
  simp only [overlaps_iff_of_endInWords h hspan, meets_iff hlength]
  constructor
  · rintro ⟨r,hr,⟨b,hlo,hhi,hin⟩ | ⟨hempty,hlo,hhi⟩⟩
    · exact .inl ⟨b,hlo,hhi,r,hr,hin⟩
    · exact .inr ⟨r.1,hempty ▸ hr,hlo,hhi⟩
  · rintro (⟨b,hlo,hhi,r,hr,hin⟩ | ⟨s,hs,hlo,hhi⟩)
    · exact ⟨r,hr,.inl ⟨b,hlo,hhi,hin⟩⟩
    · exact ⟨_,hs,.inr ⟨rfl,hlo,hhi⟩⟩

/-! ## Sets of regions -/

/-- Starts ascend, so none stands twice. -/
def Ascending (refs : Immutables) : Prop := refs.Pairwise fun r s => r.1 < s.1

lemma mem_insert {refs : Immutables} (h : refs.Ascending) {start length : Nat} {r : Nat × Nat} :
    r ∈ refs.insert start length ↔ r = (start,length) ∨ r ∈ refs ∧ r.1 ≠ start := by
  induction refs with
  | nil => simp [insert]
  | cons first rest ih =>
    obtain ⟨s,l⟩ := first
    obtain ⟨hfirst,hrest⟩ := List.pairwise_cons.mp h
    have hlater : ∀ r ∈ rest, s < r.1 := hfirst
    rw [insert]
    split_ifs with hlt heq
    · grind
    · grind
    · simp only [List.mem_cons, ih hrest]
      grind

lemma ascending_insert {refs : Immutables} (h : refs.Ascending) (start length : Nat) :
    (refs.insert start length).Ascending := by
  induction refs with
  | nil => exact List.pairwise_singleton _ _
  | cons first rest ih =>
    obtain ⟨s,l⟩ := first
    obtain ⟨hfirst,hrest⟩ := List.pairwise_cons.mp h
    have hlater : ∀ r ∈ rest, s < r.1 := hfirst
    rw [insert]
    split_ifs with hlt heq
    · refine List.pairwise_cons.mpr ⟨?_,h⟩
      grind
    · subst heq
      exact List.pairwise_cons.mpr ⟨hfirst,hrest⟩
    · refine List.pairwise_cons.mpr ⟨?_,ih hrest⟩
      intro r hr
      rcases (mem_insert hrest).mp hr with rfl | ⟨hr,-⟩
      · change s < start
        omega
      · exact hlater r hr

lemma ofList_concat (regions : List (Nat × Nat)) (r : Nat × Nat) :
    ofList (regions ++ [r]) = (ofList regions).insert r.1 r.2 := by
  simp [ofList]

lemma ascending_ofList (regions : List (Nat × Nat)) : (ofList regions).Ascending := by
  -- regions are added from the left, so the last one comes off first
  induction regions using List.reverseRecOn with
  | nil => exact List.Pairwise.nil
  | append_singleton regions r ih =>
    rw [ofList_concat]
    exact ascending_insert ih _ _

/-- A region stands in a list, and none behind it has its start. -/
def IsLast (r : Nat × Nat) (regions : List (Nat × Nat)) : Prop :=
  ∃ before after, regions = before ++ r :: after ∧ ∀ later ∈ after, later.1 ≠ r.1

lemma isLast_concat {r s : Nat × Nat} {regions : List (Nat × Nat)} :
    IsLast r (regions ++ [s]) ↔ r = s ∨ IsLast r regions ∧ r.1 ≠ s.1 := by
  constructor
  · rintro ⟨before,after,heq,hlater⟩
    rcases List.eq_nil_or_concat after with rfl | ⟨after,t,rfl⟩
    · obtain ⟨-,hlast⟩ := List.append_inj' heq rfl
      exact .inl (List.singleton_inj.mp hlast).symm
    · rw [List.concat_eq_append, ← List.cons_append, ← List.append_assoc] at heq
      obtain ⟨rfl,hlast⟩ := List.append_inj' heq rfl
      obtain rfl := List.singleton_inj.mp hlast
      exact .inr ⟨⟨before,after,rfl,fun later h => hlater later (by simp [h])⟩,
        Ne.symm (hlater s (by simp))⟩
  · rintro (rfl | ⟨⟨before,after,rfl,hlater⟩,hne⟩)
    · exact ⟨regions,[],rfl,by simp⟩
    · refine ⟨before,after ++ [s],by simp,?_⟩
      rw [List.forall_mem_append]
      exact ⟨hlater,by simpa using hne.symm⟩

/-- The last region of each start is kept. -/
theorem mem_ofList_iff {r : Nat × Nat} {regions : List (Nat × Nat)} :
    r ∈ ofList regions ↔ IsLast r regions := by
  induction regions using List.reverseRecOn with
  | nil => simp [ofList, IsLast]
  | append_singleton regions s ih =>
    rw [ofList_concat, mem_insert (ascending_ofList regions), isLast_concat, ih]

lemma exists_isLast {r : Nat × Nat} {regions : List (Nat × Nat)} (h : r ∈ regions) :
    ∃ length, IsLast (r.1,length) regions := by
  induction regions using List.reverseRecOn with
  | nil => cases h
  | append_singleton regions s ih =>
    simp only [isLast_concat]
    by_cases hsame : r.1 = s.1
    · exact ⟨s.2,.inl (by rw [hsame])⟩
    · rcases List.mem_append.mp h with h | h
      · obtain ⟨length,hlast⟩ := ih h
        exact ⟨length,.inr ⟨hlast,hsame⟩⟩
      · exact absurd (congrArg Prod.fst (List.mem_singleton.mp h)) hsame

/-! ## Reports -/

/-- The byte at a position lies in a region. -/
def Holds (r : Nat × Nat) (position : Nat) : Prop := r.1 ≤ position ∧ position < r.1 + r.2

/-- A slot states a region: its start and its length stand there as unsigned 64-bit numbers. -/
def States (slot : Json) (r : Nat × Nat) : Prop :=
  ∃ fields, slot = .obj fields ∧ Json.lookup "start" fields = some (.int r.1) ∧
    Json.lookup "length" fields = some (.int r.2) ∧ r.1 < Text.wordBound ∧ r.2 < Text.wordBound

/-- A report lists a region: it is an object, and a slot in an array of it states the region. -/
inductive Lists (report : Json) (r : Nat × Nat) : Prop
  | intro {groups : List (String × Json)} {name : String} {slots : List Json} {slot : Json}
    (object : report = .obj groups) (group : (name,.arr slots) ∈ groups) (mem : slot ∈ slots)
    (states : States slot r)

/-- The regions that a report lists, in order. -/
def listed (report : Json) : List (Nat × Nat) :=
  ((report.asObject?.getD []).filterMap fun m => m.2.asArray?).flatten.filterMap region?

lemma asWord?_eq_some_iff {j : Json} {n : Nat} :
    j.asWord? = some n ↔ j = .int n ∧ n < Text.wordBound := by
  cases j with
  | int k =>
    simp only [Json.asWord?, Option.ite_none_right_eq_some, Option.some.injEq, Json.int.injEq]
    omega
  | _ => simp [Json.asWord?]

lemma region?_eq_some_iff {slot : Json} {r : Nat × Nat} : region? slot = some r ↔ States slot r := by
  unfold region? States
  cases slot with
  | obj fields =>
    simp only [Json.get?, bind, pure, Option.bind_eq_some_iff, asWord?_eq_some_iff,
      Option.some.injEq, Json.obj.injEq]
    constructor
    · rintro ⟨start,⟨_,hstart,rfl,hs⟩,length,⟨_,hlength,rfl,hl⟩,rfl⟩
      exact ⟨fields,rfl,hstart,hlength,hs,hl⟩
    · rintro ⟨_,rfl,hstart,hlength,hs,hl⟩
      exact ⟨r.1,⟨_,hstart,rfl,hs⟩,r.2,⟨_,hlength,rfl,hl⟩,rfl⟩
  | _ => simp [Json.get?]

lemma mem_listed_iff {report : Json} {r : Nat × Nat} : r ∈ listed report ↔ Lists report r := by
  simp only [listed, List.mem_filterMap, List.mem_flatten, region?_eq_some_iff]
  constructor
  · rintro ⟨slot,⟨slots,⟨⟨name,group⟩,hgroup,harray⟩,hslot⟩,hstates⟩
    cases report with
    | obj groups =>
      cases group with
      | arr items =>
        obtain rfl := Option.some.inj harray
        exact .intro rfl hgroup hslot hstates
      | _ => cases harray
    | _ => cases hgroup
  · rintro ⟨rfl,hgroup,hslot,hstates⟩
    exact ⟨_,⟨_,⟨_,hgroup,rfl⟩,hslot⟩,hstates⟩

/-- Regions share no byte. -/
def Apart (r s : Nat × Nat) : Prop := ∀ b, ¬(Holds r b ∧ Holds s b)

lemma apart_of_le {r s : Nat × Nat} (h : r.1 + r.2 ≤ s.1 ∨ s.1 + s.2 ≤ r.1) : Apart r s := by
  rintro b ⟨⟨_,_⟩,_,_⟩
  omega

/-- Of filled regions that lie apart each one is the only one of its start, so all are kept. -/
lemma mem_ofReport_iff {report : Json}
    (hapart : ∀ r s, Lists report r → Lists report s → r ≠ s → Apart r s)
    (hfilled : ∀ r, Lists report r → 0 < r.2) {r : Nat × Nat} :
    r ∈ ofReport report ↔ Lists report r := by
  change r ∈ ofList (listed report) ↔ _
  rw [mem_ofList_iff, ← mem_listed_iff]
  constructor
  · rintro ⟨before,after,heq,-⟩
    simp [heq]
  · intro hr
    obtain ⟨length,hlast⟩ := exists_isLast hr
    have hmem : (r.1,length) ∈ listed report := by
      obtain ⟨before,after,heq,-⟩ := hlast
      simp [heq]
    rw [mem_listed_iff] at hr hmem
    -- the two regions share the byte that they start with
    have hsame : r = (r.1,length) := by
      by_contra hne
      have hpos := hfilled _ hr
      have hpos' : 0 < length := hfilled _ hmem
      exact hapart _ _ hr hmem hne r.1 ⟨⟨Nat.le_refl _,by omega⟩,Nat.le_refl _,
        Nat.lt_add_of_pos_right hpos'⟩
    exact hsame ▸ hlast

/-- The slots of a report are the last regions of each start among those that it lists, and nothing
else in a report has a part in them. As long as no end reaches over the last word, a span meets them
in a common byte, or at an empty region strictly inside the span. So where the listed regions lie
apart and none of them is empty, a span meets the slots exactly if it shares a byte with a listed
region. -/
theorem overlaps_ofReport (report : Json) (start : Nat) {length : Nat} (hlength : 1 ≤ length) :
    (∀ r, r ∈ listed report ↔ Lists report r) ∧
    (∀ r, r ∈ ofReport report ↔ IsLast r (listed report)) ∧
    (start + length < Text.wordBound → (ofReport report).EndInWords →
      ((ofReport report).overlaps start length = true ↔
        (∃ b, Holds (start,length) b ∧ ∃ r ∈ ofReport report, Holds r b) ∨
          ∃ s, (s,0) ∈ ofReport report ∧ start < s ∧ s < start + length)) ∧
    (start + length < Text.wordBound → (∀ r, Lists report r → r.1 + r.2 < Text.wordBound) →
      (∀ r s, Lists report r → Lists report s → r ≠ s → Apart r s) →
      (∀ r, Lists report r → 0 < r.2) →
      ((ofReport report).overlaps start length = true ↔
        ∃ b, Holds (start,length) b ∧ ∃ r, Lists report r ∧ Holds r b)) := by
  have hmeets (hspan : start + length < Text.wordBound) (hends : (ofReport report).EndInWords) :
      (ofReport report).overlaps start length = true ↔
        (∃ b, Holds (start,length) b ∧ ∃ r ∈ ofReport report, Holds r b) ∨
          ∃ s, (s,0) ∈ ofReport report ∧ start < s ∧ s < start + length := by
    rw [overlaps_iff_covers hends hlength hspan]
    simp only [Holds, Covers, and_assoc]
  refine ⟨fun _ => mem_listed_iff,fun _ => mem_ofList_iff,hmeets,?_⟩
  intro hspan hlisted hapart hfilled
  have hends : (ofReport report).EndInWords := fun r hr =>
    hlisted r ((mem_ofReport_iff hapart hfilled).mp hr)
  have hnone : ¬∃ s, (s,0) ∈ ofReport report ∧ start < s ∧ s < start + length := by
    rintro ⟨s,hs,-⟩
    exact absurd (hfilled _ ((mem_ofReport_iff hapart hfilled).mp hs)) (Nat.lt_irrefl 0)
  rw [hmeets hspan hends, or_iff_left hnone]
  simp only [mem_ofReport_iff hapart hfilled]

/-- A slot as compilers report it. -/
def slot (start length : Nat) : Json := .obj [("start", .int start), ("length", .int length)]

/-- Three slots of two nodes, among values that are none. -/
def mixedReport : Json := .obj [("7", .arr [slot 120 32, .int 5, slot 300 32]), ("8", .null),
  ("9", .arr [.obj [("start", .int 152)], slot 40 32, .obj [("start", .int (-1))]])]

/-- The last byte of a slot, between listed regions that lie apart. -/
theorem overlaps_ofReport_last_byte :
    1 ≤ 1 ∧ 151 + 1 < Text.wordBound ∧
      (∀ r, Lists mixedReport r → r.1 + r.2 < Text.wordBound) ∧
      (∀ r s, Lists mixedReport r → Lists mixedReport s → r ≠ s → Apart r s) ∧
      (∀ r, Lists mixedReport r → 0 < r.2) ∧
      ((ofReport mixedReport).overlaps 151 1 = true ↔
        ∃ b, Holds (151,1) b ∧ ∃ r, Lists mixedReport r ∧ Holds r b) := by
  obtain ⟨hlisted,-,-,hmeets⟩ := overlaps_ofReport mixedReport 151 (Nat.le_refl 1)
  have hregions : listed mixedReport = [(120,32),(300,32),(40,32)] := by decide
  simp only [← hlisted, hregions] at hmeets ⊢
  have hle : ∀ r ∈ [(120,32),(300,32),(40,32)], ∀ s ∈ [(120,32),(300,32),(40,32)],
      r ≠ s → r.1 + r.2 ≤ s.1 ∨ s.1 + s.2 ≤ r.1 := by decide
  have hapart : ∀ r s, r ∈ [(120,32),(300,32),(40,32)] → s ∈ [(120,32),(300,32),(40,32)] →
      r ≠ s → Apart r s := fun r s hr hs hne => apart_of_le (hle r hr s hs hne)
  have hfilled : ∀ r ∈ [(120,32),(300,32),(40,32)], 0 < r.2 := by decide
  have hspan : 151 + 1 < Text.wordBound := by decide
  have hends : ∀ r ∈ [(120,32),(300,32),(40,32)], r.1 + r.2 < Text.wordBound := by decide
  exact ⟨Nat.le_refl 1,hspan,hends,hapart,hfilled,hmeets hspan hends hapart hfilled⟩

/-- An empty slot meets a span without a byte in common. -/
theorem overlaps_empty_slot : ∃ report : Json,
    (∀ r s, Lists report r → Lists report s → r ≠ s → Apart r s) ∧
      (ofReport report).overlaps 0 2 = true ∧
      ¬∃ b, Holds (0,2) b ∧ ∃ r, Lists report r ∧ Holds r b := by
  have hregions : listed (.obj [("7", .arr [slot 1 0])]) = [(1,0)] := by decide
  refine ⟨.obj [("7", .arr [slot 1 0])],?_,by decide,?_⟩
  · simp only [← mem_listed_iff, hregions, List.mem_singleton]
    rintro r s rfl rfl hne
    exact absurd rfl hne
  · simp only [← mem_listed_iff, hregions, List.mem_singleton, Holds]
    rintro ⟨b,-,r,rfl,hlo,hhi⟩
    omega

/-- An empty slot takes the place of a filled one with its start. -/
example : (ofReport (.obj [("7", .arr [slot 5 32, slot 5 0])])).overlaps 6 1 = false := by decide

end DeployCheck.Bytecode.Immutables
