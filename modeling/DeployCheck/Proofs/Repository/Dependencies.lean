import DeployCheck.Repository.Dependency
import Mathlib.Data.List.Nodup
import Mathlib.Tactic.Common

/-! Which dependency a path belongs to. Names are compared character by character and the longest
one counts. Where it ends inside a segment of the path, no name that ends with a segment is found,
and the rest of that segment stays in front of the path inside the dependency. -/
namespace DeployCheck.Repository

variable {α : Type} {path name : String} {ds : List (String × α)} {result : Option (String × α)}

/-- A path begins with the characters of a name. -/
def Begins (path name : String) : Prop := ∃ rest, path = name ++ rest

/-- A path begins with the segments of a name: it is the name, or a slash follows the name in it. -/
def BeginsWithSegments (path name : String) : Prop :=
  path = name ∨ ∃ rest, path = name ++ "/" ++ rest

/-- The entry with the longest of the names that a test holds for; none if it holds for none. -/
def IsLongest (test : String → Prop) (ds : List (String × α)) : Option (String × α) → Prop
  | none => ∀ d ∈ ds, ¬ test d.1
  | some best => best ∈ ds ∧ test best.1 ∧
      ∀ d ∈ ds, test d.1 → d.1.utf8ByteSize ≤ best.1.utf8ByteSize

lemma BeginsWithSegments.begins (h : BeginsWithSegments path name) : Begins path name := by
  rcases h with rfl | ⟨rest,rfl⟩
  · exact ⟨"",by simp⟩
  · exact ⟨"/" ++ rest,String.append_assoc⟩

lemma startsWith_iff : Text.startsWith name path = true ↔ Begins path name := by
  simp only [Text.startsWith, Option.isSome_iff_exists, Text.after?_eq_some_iff, Begins]
  constructor
  · rintro ⟨rest,hrest⟩
    exact ⟨String.ofList rest,String.toList_inj.mp (by simp [hrest])⟩
  · rintro ⟨rest,rfl⟩
    exact ⟨rest.toList,String.toList_append⟩

/-- Names of one length that a path begins with are the same. -/
lemma Begins.eq_of_size {other : String} (h : Begins path name) (k : Begins path other)
    (hsize : name.utf8ByteSize = other.utf8ByteSize) : name = other := by
  obtain ⟨rest,rfl⟩ := h
  obtain ⟨rest',hrest⟩ := k
  have hlists : name.toList ++ rest.toList = other.toList ++ rest'.toList := by
    simpa using congrArg String.toList hrest
  -- one name continues the other, by no character
  have hempty : ∀ {a b : String} {more : List Char}, b.toList = a.toList ++ more →
      a.utf8ByteSize = b.utf8ByteSize → a = b := by
    intro a b more hb hsizes
    have hcontinued : b = a ++ String.ofList more := String.toList_inj.mp (by simp [hb])
    have hzero : (String.ofList more).utf8ByteSize = 0 := by
      rw [hcontinued, String.utf8ByteSize_append] at hsizes
      omega
    rw [hcontinued, String.utf8ByteSize_eq_zero_iff.mp hzero, String.append_empty]
  rcases List.append_eq_append_iff.mp hlists with ⟨more,hmore,-⟩ | ⟨more,hmore,-⟩
  · exact hempty hmore hsize
  · exact (hempty hmore hsize.symm).symm

/-! ## The longest name -/

theorem longest_isLongest (ds : List (String × α)) : IsLongest (fun _ => True) ds (longest ds) := by
  induction ds with
  | nil => simp [longest, IsLongest]
  | cons d rest ih =>
    unfold longest
    cases hrest : longest rest with
    | none =>
      have hnil : rest = [] := by simpa [hrest, IsLongest, List.eq_nil_iff_forall_not_mem] using ih
      simp [IsLongest, hnil]
    | some best =>
      obtain ⟨hmem,-,hmax⟩ : IsLongest _ rest (some best) := hrest ▸ ih
      dsimp only
      by_cases hle : d.1.utf8ByteSize ≤ best.1.utf8ByteSize
      · rw [if_pos hle]
        exact ⟨List.mem_cons_of_mem _ hmem,trivial,List.forall_mem_cons.mpr ⟨fun _ => hle,hmax⟩⟩
      · rw [if_neg hle]
        refine ⟨List.mem_cons_self,trivial,List.forall_mem_cons.mpr ⟨fun _ => Nat.le_refl _,?_⟩⟩
        intro other hother htest
        exact Nat.le_trans (hmax other hother htest) (Nat.le_of_not_le hle)

theorem isLongest_dependencyOf (path : String) (ds : List (String × α)) :
    IsLongest (Begins path) ds (dependencyOf path ds) := by
  have hlongest := longest_isLongest (ds.filter fun d => Text.startsWith d.1 path)
  unfold dependencyOf
  cases hbest : longest (ds.filter fun d => Text.startsWith d.1 path) with
  | none => simpa [hbest, IsLongest, startsWith_iff] using hlongest
  | some best => simpa [hbest, IsLongest, startsWith_iff, and_assoc] using hlongest

/-- In a map, the longest of the names that a path begins with belongs to one entry. -/
theorem IsLongest.unique {test : String → Prop} (htest : ∀ name, test name → Begins path name)
    (hkeys : (ds.map Prod.fst).Nodup) {other : Option (String × α)}
    (h : IsLongest test ds result) (k : IsLongest test ds other) : result = other := by
  cases result with
  | none =>
    cases other with
    | none => rfl
    | some d => exact absurd k.2.1 (h d k.1)
  | some best =>
    cases other with
    | none => exact absurd h.2.1 (k best h.1)
    | some d =>
      have hsize := Nat.le_antisymm (k.2.2 best h.1 h.2.1) (h.2.2 d k.1 k.2.1)
      have hname := (htest _ h.2.1).eq_of_size (htest _ k.2.1) hsize
      exact congrArg some (List.inj_on_of_nodup_map hkeys h.1 k.1 hname)

/-- The longest name that a path begins with is also the longest one whose segments it begins with,
as long as it is one of these. -/
theorem isLongest_segments_iff (h : IsLongest (Begins path) ds result) :
    IsLongest (BeginsWithSegments path) ds result ↔
      ∀ d, result = some d → BeginsWithSegments path d.1 := by
  cases result with
  | none =>
    refine ⟨fun _ d hd => ?_,fun _ d hd hsegments => h d hd (BeginsWithSegments.begins hsegments)⟩
    cases hd
  | some best =>
    constructor
    · rintro ⟨-,hsegments,-⟩ d hd
      exact Option.some.inj hd ▸ hsegments
    · intro hsegments
      exact ⟨h.1,hsegments best rfl,fun d hd hother => h.2.2 d hd hother.begins⟩

/-! ## The path inside -/

lemma pathInside_append (name rest : String) :
    pathInside name (name ++ rest) = Text.dropLeading '/' rest := by
  unfold pathInside
  rw [Text.textAfter?_eq_some_iff.mpr rfl]

lemma beginsWithSegments_append (name rest : String) :
    BeginsWithSegments (name ++ rest) name ↔ rest.toList.head?.all (· == '/') := by
  unfold BeginsWithSegments
  cases hrest : rest.toList with
  | nil =>
    have hempty : rest = "" := String.toList_inj.mp hrest
    simp [hempty]
  | cons c cs =>
    have hne : name ++ rest ≠ name := fun heq => by
      have := congrArg String.toList heq
      simp [hrest] at this
    simp only [hne, false_or, String.append_assoc, String.append_right_inj, List.head?_cons,
      Option.all_some, beq_iff_eq]
    constructor
    · rintro ⟨more,rfl⟩
      rw [String.toList_append] at hrest
      exact (List.cons.inj hrest).1.symm
    · rintro rfl
      exact ⟨String.ofList cs,String.toList_inj.mp (by simp [hrest])⟩

/-- Behind a name stand slashes, which may be none, and the path inside. It is the rest of a segment
if there is no slash. -/
theorem exists_slashes (h : Begins path name) : ∃ slashes : String,
    path = name ++ slashes ++ pathInside name path ∧ (∀ c ∈ slashes.toList, c = '/') ∧
    (pathInside name path).toList.head? ≠ some '/' ∧
    (BeginsWithSegments path name ↔ slashes ≠ "" ∨ pathInside name path = "") := by
  obtain ⟨rest,rfl⟩ := h
  rw [pathInside_append, beginsWithSegments_append]
  refine ⟨String.ofList (rest.toList.takeWhile (· == '/')),?_,?_,?_,?_⟩
  · rw [String.append_assoc]
    refine congrArg _ (String.toList_inj.mp ?_)
    simp [Text.dropLeading]
  · intro c hc
    rw [String.toList_ofList] at hc
    simpa using List.all_eq_true.mp List.all_takeWhile c hc
  · intro hhead
    have hslash := List.head?_dropWhile_not (· == '/') rest.toList
    simp_all [Text.dropLeading]
  · cases hrest : rest.toList with
    | nil => simp [Text.dropLeading, hrest]
    | cons c cs => by_cases hc : c = '/' <;> simp [Text.dropLeading, hrest, hc]

/-! ## Dependencies -/

/-- In a map of dependencies, the one with the longest name that a path begins with is found. Behind
that name, slashes are left out of the path inside. The dependency that the segments of the path
name is found exactly if the name found ends with a segment. -/
theorem dependencyOf_iff_isLongest (hkeys : (ds.map Prod.fst).Nodup) (path : String) :
    (∀ result, dependencyOf path ds = result ↔ IsLongest (Begins path) ds result) ∧
    (∀ name repository, dependencyOf path ds = some (name, repository) → ∃ slashes : String,
      path = name ++ slashes ++ pathInside name path ∧ (∀ c ∈ slashes.toList, c = '/') ∧
      (pathInside name path).toList.head? ≠ some '/' ∧
      (BeginsWithSegments path name ↔ slashes ≠ "" ∨ pathInside name path = "")) ∧
    ∀ result, IsLongest (BeginsWithSegments path) ds result →
      (dependencyOf path ds = result ↔
        ∀ d, dependencyOf path ds = some d → BeginsWithSegments path d.1) := by
  have hlongest := isLongest_dependencyOf path ds
  have hsegments := isLongest_segments_iff hlongest
  refine ⟨fun result => ⟨?_,?_⟩,?_,fun result hresult => ⟨?_,?_⟩⟩
  · rintro rfl
    exact hlongest
  · exact hlongest.unique (fun _ => id) hkeys
  · intro name repository hfound
    rw [hfound] at hlongest
    exact exists_slashes hlongest.2.1
  · rintro rfl
    exact hsegments.mp hresult
  · intro hends
    exact (hsegments.mpr hends).unique (fun _ => BeginsWithSegments.begins) hkeys hresult

/-- A package, and all packages of its owner. -/
def packages : List (String × String) :=
  [("@openzeppelin", "all"), ("@openzeppelin/contracts", "one")]

theorem dependencyOf_iff_isLongest_packages :
    (packages.map Prod.fst).Nodup ∧
    IsLongest (Begins "@openzeppelin/contracts/P.sol") packages
      (some ("@openzeppelin/contracts", "one")) ∧
    IsLongest (Begins "contracts/P.sol") packages none := by
  have hkeys : (packages.map Prod.fst).Nodup := by decide
  exact ⟨hkeys,((dependencyOf_iff_isLongest hkeys _).1 _).mp (by decide +kernel),
    ((dependencyOf_iff_isLongest hkeys _).1 _).mp (by decide +kernel)⟩

/-- A name that ends inside a segment is found, and leaves the rest of the segment. -/
theorem dependencyOf_cuts_segment :
    IsLongest (BeginsWithSegments "@openzeppelin/contracts-upgradeable/P.sol")
      [("@openzeppelin/contracts", "one")] none ∧
    dependencyOf "@openzeppelin/contracts-upgradeable/P.sol" [("@openzeppelin/contracts", "one")] =
      some ("@openzeppelin/contracts", "one") ∧
    pathInside "@openzeppelin/contracts" "@openzeppelin/contracts-upgradeable/P.sol" =
      "-upgradeable/P.sol" := by
  refine ⟨?_,by decide +kernel,by decide +kernel⟩
  have hrest : "@openzeppelin/contracts-upgradeable/P.sol" =
      "@openzeppelin/contracts" ++ "-upgradeable/P.sol" := by decide +kernel
  intro d hd
  rw [List.mem_singleton.mp hd, hrest, beginsWithSegments_append]
  decide +kernel

end DeployCheck.Repository
