import DeployCheck.Proofs.Url.Paths
import DeployCheck.Repository.Link

/-! Links to repositories. A link is cut at the first `/tree`, so it names its repository unless the
name of the repository begins with these letters. -/
namespace DeployCheck.Repository

open Url (Path.IsKept Path.IsPlainSegment)

/-- A character of the names of owners and repositories. -/
def isNameChar (c : Char) : Bool := c.isAlphanum || c == '-' || c == '_'

/-- A name of an owner, a repository or a segment behind them. -/
structure LinkName (s : String) : Prop where
  ne_empty : s ≠ ""
  chars : s.toList.all isNameChar = true

/-- The end that addresses for cloning have. -/
def IsCloneEnd (s : String) : Prop := s = "" ∨ s = ".git"

/-- What may stand behind a repository in a link: at most a slash, or the way to a view of a tree. -/
inductive TreeView : String → Prop
  | none : TreeView ""
  | slash : TreeView "/"
  | tree (way : List String) (hne : way ≠ []) (hway : ∀ s ∈ way, LinkName s) :
      TreeView ("/tree/" ++ String.intercalate "/" way)

/-! ## Names -/

lemma not_mem_of_all {cs : List Char} {d : Char} (h : cs.all isNameChar = true)
    (hd : isNameChar d = false) : d ∉ cs :=
  fun hmem => Bool.false_ne_true (hd.symm.trans (List.all_eq_true.mp h d hmem))

lemma uncoded_of_isNameChar {c : Char} (h : isNameChar c = true) : Url.Path.isCoded c = false := by
  have hcoded : "\"#<>?\x60\x7b\x7d".toList.all (!isNameChar ·) = true := by decide
  have hrange : 0x20 < c.toNat ∧ c.toNat ≤ 126 := by
    simp only [isNameChar, Bool.or_eq_true, beq_iff_eq] at h
    rcases h with (h | rfl) | rfl
    · have hrange := Text.isAlphanum_iff.mp h
      omega
    · decide
    · decide
  simp only [Url.Path.isCoded, Bool.or_eq_false_iff, decide_eq_false_iff_not]
  refine ⟨⟨by omega,by omega⟩,?_⟩
  rw [← Bool.not_eq_true, List.contains_iff_mem]
  exact fun hmem => by simpa [h] using List.all_eq_true.mp hcoded c hmem

/-- Names between slashes are kept. -/
lemma isKept_of_chars {cs : List Char} (h : ∀ c ∈ cs, isNameChar c = true ∨ c = '/') :
    Path.IsKept cs where
  uncoded c hc := by
    rcases h c hc with h | rfl
    · exact uncoded_of_isNameChar h
    · decide
  no_backslash hmem := by simpa [isNameChar] using h _ hmem
  segments s hs := by
    have hne : ∀ d, s.head? = some d → isNameChar d = true ∨ d = '/' := fun d hd =>
      h d (Text.subset_of_mem_split hs (List.mem_of_mem_head? hd))
    exact ⟨fun hd => by simpa [isNameChar] using hne _ hd,
      fun hd => by simpa [isNameChar] using hne _ hd⟩

/-! ## Ends -/

lemma IsCloneEnd.toList {clone : String} (h : IsCloneEnd clone) :
    clone.toList = [] ∨ clone.toList = ".git".toList := by
  rcases h with rfl | rfl
  · exact .inl rfl
  · exact .inr rfl

lemma IsCloneEnd.slashless {clone : String} (h : IsCloneEnd clone) : '/' ∉ clone.toList := by
  rcases h.toList with h | h <;> rw [h] <;> decide

lemma way_chars {way : List String} (h : ∀ s ∈ way, LinkName s) :
    ∀ c ∈ (String.intercalate "/" way).toList, isNameChar c = true ∨ c = '/' := by
  induction way with
  | nil => simp
  | cons s way ih =>
    obtain ⟨hs,hway⟩ := List.forall_mem_cons.mp h
    have hname : ∀ c ∈ s.toList, isNameChar c = true ∨ c = '/' :=
      fun c hc => .inl (List.all_eq_true.mp hs.chars c hc)
    by_cases hne : way = []
    · subst hne
      rwa [String.intercalate_singleton]
    · rw [String.intercalate_cons_of_ne_nil hne]
      simp only [String.toList_append, List.forall_mem_append]
      exact ⟨⟨hname,by simp⟩,ih hway⟩

lemma LinkName.toList_ne_nil {s : String} (h : LinkName s) : s.toList ≠ [] :=
  fun hnil => h.ne_empty (String.toList_eq_nil_iff.mp hnil)

lemma LinkName.slashless {s : String} (h : LinkName s) : '/' ∉ s.toList :=
  not_mem_of_all h.chars (by decide)

lemma LinkName.exists_getLast? {s : String} (h : LinkName s) :
    ∃ c, s.toList.getLast? = some c ∧ isNameChar c = true := by
  refine ⟨_,List.getLast?_eq_some_getLast h.toList_ne_nil,?_⟩
  exact List.all_eq_true.mp h.chars _ (List.getLast_mem h.toList_ne_nil)

lemma exists_getLast?_way {way : List String} (hne : way ≠ []) (h : ∀ s ∈ way, LinkName s) :
    ∃ c, (String.intercalate "/" way).toList.getLast? = some c ∧ isNameChar c = true := by
  induction way with
  | nil => exact absurd rfl hne
  | cons s way ih =>
    obtain ⟨hs,hway⟩ := List.forall_mem_cons.mp h
    by_cases hend : way = []
    · subst hend
      rw [String.intercalate_singleton]
      exact hs.exists_getLast?
    · obtain ⟨c,hlast,hc⟩ := ih hend hway
      refine ⟨c,?_,hc⟩
      rw [String.intercalate_cons_of_ne_nil hend, String.toList_append, List.getLast?_append, hlast]
      rfl

namespace TreeView

variable {view : String} (h : TreeView view)

include h

lemma chars : ∀ c ∈ view.toList, isNameChar c = true ∨ c = '/' := by
  cases h with
  | none => simp
  | slash => simp
  | tree way hne hway =>
    rw [String.toList_append, List.forall_mem_append]
    exact ⟨by simp [isNameChar],way_chars hway⟩

lemma begins : view.toList = [] ∨ ∃ rest, view.toList = '/' :: rest := by
  cases h with
  | none => exact .inl rfl
  | slash => exact .inr ⟨[],rfl⟩
  | tree way hne hway => exact .inr ⟨_,String.toList_append⟩

/-- Without slashes at its end, what stands behind a repository is nothing or begins with the mark
that cuts it off. -/
lemma exists_inner : ∃ inner n, view.toList = inner ++ List.replicate n '/' ∧
    inner.getLast? ≠ some '/' ∧ (inner = [] ∨ ∃ rest, inner = "/tree".toList ++ rest) := by
  cases h with
  | none => exact ⟨[],0,rfl,by simp,.inl rfl⟩
  | slash => exact ⟨[],1,rfl,by simp,.inl rfl⟩
  | tree way hne hway =>
    obtain ⟨c,hlast,hc⟩ := exists_getLast?_way hne hway
    refine ⟨_,0,(List.append_nil _).symm,?_,
      .inr ⟨'/' :: (String.intercalate "/" way).toList,by simp⟩⟩
    rw [String.toList_append, List.getLast?_append, hlast]
    rintro ⟨rfl⟩
    exact absurd hc (by decide)

end TreeView

/-! ## Links -/

section Link

variable {owner name clone view : String} (howner : LinkName owner) (hname : LinkName name)
  (hclone : IsCloneEnd clone) (hview : TreeView view)

include hname hclone in
lemma slashless_name : '/' ∉ name.toList ++ clone.toList := by
  rw [List.mem_append, not_or]
  exact ⟨hname.slashless,hclone.slashless⟩

include hname hclone in
lemma isKept_name : Path.IsKept (name.toList ++ clone.toList) where
  uncoded := by
    rw [List.forall_mem_append]
    refine ⟨fun c hc => uncoded_of_isNameChar (List.all_eq_true.mp hname.chars c hc),?_⟩
    rcases hclone.toList with h | h <;> rw [h] <;> simp [Url.Path.isCoded]
  no_backslash := by
    rw [List.mem_append, not_or]
    refine ⟨not_mem_of_all hname.chars (by decide),?_⟩
    rcases hclone.toList with h | h <;> rw [h] <;> decide
  segments := by
    rw [Text.split_of_not_mem (slashless_name hname hclone), List.forall_mem_singleton]
    have hchars := hname.chars
    obtain ⟨c,cs,hcs⟩ := List.exists_cons_of_ne_nil hname.toList_ne_nil
    rw [hcs, List.all_cons, Bool.and_eq_true] at hchars
    rw [hcs]
    constructor <;> rintro ⟨rfl⟩ <;> exact absurd hchars.1 (by decide)

include howner hname hclone hview in
lemma isKept_link :
    Path.IsKept (owner.toList ++ '/' :: (name.toList ++ clone.toList ++ view.toList)) := by
  have howned : Path.IsKept owner.toList :=
    isKept_of_chars fun c hc => .inl (List.all_eq_true.mp howner.chars c hc)
  have hnamed := isKept_name hname hclone
  apply howned.append_slash
  have hchars := hview.chars
  rcases hview.begins with h | ⟨rest,h⟩
  · rwa [h, List.append_nil]
  · rw [h] at hchars ⊢
    exact hnamed.append_slash (isKept_of_chars (List.forall_mem_cons.mp hchars).2)

include howner hname hclone in
/-- The slashes around the path of a link are the one in front of it and those at its end. -/
lemma dropAround_link {inner : List Char} (hlast : inner.getLast? ≠ some '/') (n : Nat) :
    let path := owner.toList ++ '/' :: (name.toList ++ clone.toList ++ inner)
    Text.dropAround '/' (String.ofList ('/' :: (path ++ List.replicate n '/'))) =
      String.ofList path := by
  apply Text.dropAround_replicate (by simp) _ _ 1 n
  · obtain ⟨c,cs,hcs⟩ := List.exists_cons_of_ne_nil howner.toList_ne_nil
    rw [hcs]
    rintro ⟨rfl⟩
    exact howner.slashless (hcs ▸ List.mem_cons_self)
  · have hne : name.toList ++ clone.toList ++ inner ≠ [] := by
      simp [hname.ne_empty]
    rw [List.getLast?_append_cons, List.getLast?_cons_of_ne_nil hne]
    exact Text.getLast?_append_ne
      (fun h => slashless_name hname hclone (List.mem_of_getLast? h)) hlast

include howner hname hclone hview in
/-- What a link is cut to: owner and name if the mark is found behind them, the owner alone if the
name begins with the mark. -/
lemma linkPath_link {url : Url}
    (hpath : url.path = '/' :: (owner.toList ++ '/' :: (name.toList ++ clone.toList ++ view.toList))) :
    linkPath url = if Text.startsWith "tree" name then owner.toList
      else owner.toList ++ '/' :: (name.toList ++ clone.toList) := by
  obtain ⟨inner,n,hinner,hlast,hcut⟩ := hview.exists_inner
  have haround := dropAround_link howner hname hclone hlast n
  have hwhole : url.path = '/' :: (owner.toList ++
      '/' :: (name.toList ++ clone.toList ++ inner) ++ List.replicate n '/') := by
    rw [hpath, hinner]
    simp only [List.append_assoc, List.cons_append]
  -- nothing behind the name can complete the mark
  have hmark : ∀ d ∈ (clone.toList ++ inner).head?, d ∉ "tree".toList := by
    rcases hclone.toList with hc | hc <;> rcases hcut with rfl | ⟨rest,rfl⟩ <;> rw [hc] <;> simp
  have htree : (Text.after? "tree".toList (name.toList ++ (clone.toList ++ inner))).isSome =
      (Text.after? "tree".toList name.toList).isSome :=
    Text.isSome_after?_append hmark
  have hinside : Text.upTo "/tree".toList inner = [] := by
    rcases hcut with rfl | ⟨rest,rfl⟩ <;> rfl
  have hlead : "/tree".toList = '/' :: "tree".toList := by
    rfl
  unfold linkPath Text.startsWith
  rw [hwhole, haround, String.toList_ofList (l := owner.toList ++ _), hlead,
    Text.upTo_append_of_not_mem howner.slashless, Text.upTo_cons_self,
    Text.upTo_append_of_not_mem (slashless_name hname hclone), ← hlead, hinside, List.append_assoc,
    htree, List.append_nil]
  split
  · rw [List.append_nil]
  · rfl

include howner hname hclone hview in
lemma parts_link {url : Url}
    (hpath : url.path = '/' :: (owner.toList ++ '/' :: (name.toList ++ clone.toList ++ view.toList))) :
    (Text.split '/' (linkPath url)).filter (· != []) =
      if Text.startsWith "tree" name then [owner.toList]
      else [owner.toList,name.toList ++ clone.toList] := by
  have howner_ne := howner.toList_ne_nil
  have hname_ne := hname.toList_ne_nil
  rw [linkPath_link howner hname hclone hview hpath]
  split
  · rw [Text.split_of_not_mem howner.slashless]
    simp [howner_ne]
  · rw [Text.split_append_cons, Text.split_of_not_mem howner.slashless,
      Text.split_of_not_mem (slashless_name hname hclone)]
    simp [howner_ne, hname_ne]

include hname hclone in
lemma withoutEnds_name :
    Text.withoutEnds ".git".toList (name.toList ++ clone.toList) = name.toList := by
  have hkept : Text.withoutEnds ".git".toList name.toList = name.toList :=
    Text.withoutEnds_of_not_mem (not_mem_of_all hname.chars (by decide))
  rcases hclone.toList with hc | hc <;> rw [hc]
  · rwa [List.append_nil]
  · rwa [Text.withoutEnds_append (by decide)]

end Link

/-- A link names the repository that it was made from, unless the name of the repository begins with
`tree`; then the whole name is cut off. -/
theorem parseLink_link {owner name clone view : String} (howner : LinkName owner)
    (hname : LinkName name) (hclone : IsCloneEnd clone) (hview : TreeView view) :
    parseLink ("https://github.com/" ++ owner ++ "/" ++ name ++ clone ++ view) =
      if Text.startsWith "tree" name then
        .error (.unnamedRepository ("https://github.com/" ++ owner ++ "/" ++ name ++ clone ++ view))
      else .ok (owner ++ "/" ++ name) := by
  generalize hlink : "https://github.com/" ++ owner ++ "/" ++ name ++ clone ++ view = link
  have hplain : "github.com".toList.all Url.isPlain = true := by decide +kernel
  have hhost : Url.Host.ofSpecial "github.com".toList = .ok (.domain "github.com".toList) := by
    decide +kernel
  have htext : link.toList = "https://".toList ++ ("github.com".toList ++ '/' ::
      (owner.toList ++ '/' :: (name.toList ++ clone.toList ++ view.toList))) := by
    simp [← hlink]
  have hparse := Url.parse_of_isKept hplain (by decide) hhost
    (isKept_link howner hname hclone hview) htext
  unfold parseLink
  rw [hparse]
  dsimp only
  rw [parts_link howner hname hclone hview rfl]
  cases Text.startsWith "tree" name with
  | true => rfl
  | false =>
    have hrepository :
        String.ofList (owner.toList ++ '/' :: name.toList) = owner ++ "/" ++ name := by
      simp [String.ofList_append, String.append_assoc]
    simp only [Bool.false_eq_true, if_false, withoutEnds_name hname hclone, hrepository]

theorem parseLink_link_tree :
    (LinkName "acme" ∧ LinkName "app" ∧ IsCloneEnd "" ∧ TreeView "/tree/main/src") ∧
      parseLink "https://github.com/acme/app/tree/main/src" = .ok "acme/app" := by
  have howner : LinkName "acme" := ⟨by decide,by decide⟩
  have hname : LinkName "app" := ⟨by decide,by decide⟩
  have hview : TreeView "/tree/main/src" := .tree ["main","src"] (by simp) (by
    simp only [List.forall_mem_cons]
    exact ⟨⟨by decide,by decide⟩,⟨by decide,by decide⟩,by simp⟩)
  refine ⟨⟨howner,hname,.inl rfl,hview⟩,?_⟩
  have hlink := parseLink_link howner hname (.inl rfl) hview
  exact hlink

/-- A repository whose name begins with `tree` is not found in its link. -/
theorem parseLink_treehouse :
    (LinkName "acme" ∧ LinkName "treehouse" ∧ IsCloneEnd "" ∧ TreeView "") ∧
      parseLink ("https://github.com/" ++ "acme" ++ "/" ++ "treehouse" ++ "" ++ "") =
        .error (.unnamedRepository "https://github.com/acme/treehouse") :=
  ⟨⟨⟨by decide,by decide⟩,⟨by decide,by decide⟩,.inl rfl,.none⟩,by decide +kernel⟩

end DeployCheck.Repository
