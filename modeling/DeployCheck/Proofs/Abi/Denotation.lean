import DeployCheck.Abi.Value
import DeployCheck.Proofs.Abi.Types
import DeployCheck.Proofs.Result
import Mathlib.Algebra.Order.Ring.Int
import Mathlib.Data.List.Forall2

/-! What JSON arguments denote, as a relation on types, arguments and values. -/
namespace DeployCheck.Abi.Value

/-- The ways to write a truth value. -/
inductive Flag : Json → Bool → Prop
  | literal (b : Bool) : Flag (.bool b) b
  | yes : Flag (.str "true") true
  | no : Flag (.str "false") false
  | number (b : Bool) : Flag (.int b.toNat) b

/-- The members of a tuple, given by position or by name. -/
inductive Members (fields : List (String × Ty)) : Json → List Json → Prop
  | listed {items : List Json} (h : items.length = fields.length) :
      Members fields (.arr items) items
  | named {entries : List (String × Json)} {members : List Json}
      (h : List.Forall₂ (fun f j => Json.lookup f.1 entries = some j) fields members) :
      Members fields (.obj entries) members

mutual

/-- An argument denotes a value of a type; the radix is that of integer texts without a marker. -/
inductive Denotes : Ty → Radix → Json → Value → Prop
  | address {r : Radix} {s : String} {bs : List UInt8} (hread : hexBytes s = .ok bs)
      (hsize : bs.length = 20) : Denotes .address r (.str s) (.bytes bs)
  | bool {r : Radix} {j : Json} {b : Bool} (h : Flag j b) : Denotes .bool r j (.bool b)
  | uint {bits : Nat} {r : Radix} {j : Json} {n : Int} (hread : integer r j = .ok n)
      (hlo : 0 ≤ n) (hhi : n < 2 ^ bits) : Denotes (.uint bits) r j (.int n)
  | int {bits : Nat} {r : Radix} {j : Json} {n : Int} (hread : integer r j = .ok n)
      (hlo : -2 ^ (bits - 1) ≤ n) (hhi : n < 2 ^ (bits - 1)) : Denotes (.int bits) r j (.int n)
  | fixedBytes {size : Nat} {r : Radix} {s : String} {bs : List UInt8}
      (hread : hexBytes s = .ok bs) (hsize : bs.length ≤ size) :
      Denotes (.fixedBytes size) r (.str s) (.bytes (bs ++ List.replicate (size - bs.length) 0))
  | bytes {r : Radix} {s : String} {bs : List UInt8} (hread : hexBytes s = .ok bs) :
      Denotes .bytes r (.str s) (.bytes bs)
  | string {r : Radix} {s : String} : Denotes .string r (.str s) (.string s)
  | array {item : Ty} {r : Radix} {items : List Json} {vs : List Value}
      (h : DenoteAll (List.replicate items.length item) .decimal items vs) :
      Denotes (.array item) r (.arr items) (.list vs)
  | fixedArray {item : Ty} {size : Nat} {r : Radix} {items : List Json} {vs : List Value}
      (hsize : items.length = size)
      (h : DenoteAll (List.replicate items.length item) .decimal items vs) :
      Denotes (.fixedArray item size) r (.arr items) (.list vs)
  | tuple {fields : List (String × Ty)} {r : Radix} {j : Json} {members : List Json}
      {vs : List Value} (hmembers : Members fields j members)
      (h : DenoteAll (fields.map Prod.snd) .decimal members vs) :
      Denotes (.tuple fields) r j (.list vs)

/-- Arguments denote values of types, one by one. -/
inductive DenoteAll : List Ty → Radix → List Json → List Value → Prop
  | nil {r : Radix} : DenoteAll [] r [] []
  | cons {ty : Ty} {tys : List Ty} {r : Radix} {j : Json} {js : List Json} {v : Value}
      {vs : List Value} (h : Denotes ty r j v) (hrest : DenoteAll tys r js vs) :
      DenoteAll (ty :: tys) r (j :: js) (v :: vs)

end

lemma located_eq_ok_iff {ty : Ty} {j : Json} {x : Except Reason Value} {v : Value} :
    located ty j x = .ok v ↔ x = .ok v := by
  cases x <;> simp [located]

lemma readBytes_eq_ok_iff {ty : Ty} {check : List UInt8 → Except Reason Value} {j : Json}
    {v : Value} : readBytes ty check j = .ok v ↔
      ∃ s bs, j = .str s ∧ hexBytes s = .ok bs ∧ check bs = .ok v := by
  cases j with
  | str s =>
    cases hs : hexBytes s with
    | error e => simp [readBytes, hs]
    | ok bs => cases hc : check bs <;> simp [readBytes, hs, hc]
  | _ => simp [readBytes]

lemma integerIn_eq_ok_iff {low high : Int} {r : Radix} {j : Json} {v : Value} :
    integerIn low high r j = .ok v ↔
      ∃ n, integer r j = .ok n ∧ (low ≤ n ∧ n < high) ∧ .int n = v := by
  rw [integerIn, Result.bind_eq_ok_iff]
  refine exists_congr fun n => and_congr_right fun _ => ?_
  split_ifs with h
  · simp [h, pure, Except.pure]
  · simp [h]

lemma boolean_eq_ok_iff {j : Json} {v : Value} :
    boolean j = .ok v ↔ ∃ b, Flag j b ∧ .bool b = v := by
  constructor
  · intro h
    unfold boolean at h
    split at h
    · exact ⟨_,.literal _,Except.ok.inj h⟩
    · split_ifs at h with htrue hfalse
      · exact ⟨true,htrue ▸ .yes,Except.ok.inj h⟩
      · exact ⟨false,hfalse ▸ .no,Except.ok.inj h⟩
    · split_ifs at h with hzero hone
      · exact ⟨false,hzero ▸ .number false,Except.ok.inj h⟩
      · exact ⟨true,hone ▸ .number true,Except.ok.inj h⟩
    · simp at h
  · rintro ⟨b,hflag,rfl⟩
    cases hflag with
    | literal => rfl
    | yes => rfl
    | no => rfl
    | number => cases b <;> rfl

lemma tupleMembers_eq_ok_iff {fields : List (String × Ty)} {j : Json} {members : List Json} :
    tupleMembers fields j = .ok members ↔ Members fields j members := by
  cases j with
  | arr items =>
    rw [tupleMembers]
    constructor
    · intro h
      split_ifs at h with hlen
      cases h
      exact .listed hlen
    · rintro ⟨hlen⟩
      rw [if_pos hlen]
  | obj entries =>
    have hnamed : tupleMembers fields (.obj entries) = .ok members ↔
        List.Forall₂ (fun f j => Json.lookup f.1 entries = some j) fields members := by
      rw [tupleMembers, Result.mapM_eq_ok_iff]
      refine iff_of_eq (congrArg (List.Forall₂ · fields members) ?_)
      funext f j
      cases hlookup : Json.lookup f.1 entries <;> simp [Json.get?, hlookup]
    rw [hnamed]
    constructor
    · exact .named
    · intro h
      cases h with
      | named h => exact h
  | _ =>
    simp only [tupleMembers, reduceCtorEq, false_iff]
    rintro ⟨⟩

lemma Members.length_eq {fields : List (String × Ty)} {j : Json} {members : List Json}
    (h : Members fields j members) : members.length = fields.length := by
  cases h with
  | listed h => exact h
  | named h => exact h.length_eq.symm

lemma denoteAll_cons_iff {ty : Ty} {tys : List Ty} {r : Radix} {j : Json} {js : List Json}
    {vs : List Value} : DenoteAll (ty :: tys) r (j :: js) vs ↔
      ∃ v rest, Denotes ty r j v ∧ DenoteAll tys r js rest ∧ vs = v :: rest := by
  constructor
  · rintro ⟨⟩
    exact ⟨_,_,‹_›,‹_›,rfl⟩
  · rintro ⟨v,rest,h,hrest,rfl⟩
    exact .cons h hrest

lemma denoteAll_replicate_iff {item : Ty} {r : Radix} {items : List Json} {vs : List Value} :
    DenoteAll (List.replicate items.length item) r items vs ↔
      List.Forall₂ (Denotes item r) items vs := by
  induction items generalizing vs with
  | nil =>
    rw [List.forall₂_nil_left_iff]
    constructor
    · rintro ⟨⟩
      rfl
    · rintro rfl
      exact .nil
  | cons j items ih =>
    rw [List.length_cons, List.replicate_succ, denoteAll_cons_iff, List.forall₂_cons_left_iff]
    simp only [ih]

lemma listOfItems_eq_ok_iff {item : Ty}
    (hread : ∀ j v, ofJson item .decimal j = .ok v ↔ Denotes item .decimal j v)
    {items : List Json} {v : Value} :
    (do return Value.list (← items.mapM (ofJson item .decimal))) = .ok v ↔
      ∃ vs, DenoteAll (List.replicate items.length item) .decimal items vs ∧ v = .list vs := by
  rw [Result.bind_eq_ok_iff]
  refine exists_congr fun vs => ?_
  rw [Result.mapM_eq_ok_iff, denoteAll_replicate_iff]
  simp only [hread]
  exact and_congr_right fun _ => ⟨fun h => (Except.ok.inj h).symm,fun h => h ▸ rfl⟩

lemma ofMembers_eq_ok_iff {fields : List (String × Ty)} {members : List Json} {vs : List Value}
    (hread : ∀ f ∈ fields, ∀ j v, ofJson f.2 .decimal j = .ok v ↔ Denotes f.2 .decimal j v)
    (hlen : members.length = fields.length) :
    ofMembers fields members = .ok vs ↔ DenoteAll (fields.map Prod.snd) .decimal members vs := by
  induction fields generalizing members vs with
  | nil =>
    obtain rfl := List.length_eq_zero_iff.mp hlen
    exact ⟨fun h => Except.ok.inj h ▸ .nil,fun h => by cases h; rfl⟩
  | cons f rest ih =>
    obtain ⟨j,js,rfl⟩ := List.exists_cons_of_length_eq_add_one hlen
    have hrest (ws : List Value) :
        ofMembers rest js = .ok ws ↔ DenoteAll (rest.map Prod.snd) .decimal js ws :=
      ih (fun g hg => hread g (by simp [hg])) (Nat.succ.inj hlen)
    rw [ofMembers, Result.cons_eq_ok_iff, List.map_cons, denoteAll_cons_iff]
    simp only [hread f (by simp), hrest]

/-- An argument is read as the value that it denotes. -/
theorem ofJson_eq_ok_iff {ty : Ty} {r : Radix} {j : Json} {v : Value} :
    ofJson ty r j = .ok v ↔ Denotes ty r j v := by
  induction ty using Ty.nested_induction generalizing r j v with
  | address =>
    rw [ofJson, readBytes_eq_ok_iff]
    constructor
    · rintro ⟨s,bs,rfl,hread,hcheck⟩
      unfold addressOf at hcheck
      split_ifs at hcheck with hsize
      cases hcheck
      exact .address hread hsize
    · intro h
      cases h with
      | address hread hsize => exact ⟨_,_,rfl,hread,if_pos hsize⟩
  | bool =>
    rw [ofJson, located_eq_ok_iff, boolean_eq_ok_iff]
    constructor
    · rintro ⟨b,hflag,rfl⟩
      exact .bool hflag
    · intro h
      cases h with
      | bool hflag => exact ⟨_,hflag,rfl⟩
  | uint bits =>
    rw [ofJson, located_eq_ok_iff, integerIn_eq_ok_iff]
    constructor
    · rintro ⟨n,hread,⟨hlo,hhi⟩,rfl⟩
      exact .uint hread hlo (by exact_mod_cast hhi)
    · intro h
      cases h with
      | uint hread hlo hhi => exact ⟨_,hread,⟨hlo,by exact_mod_cast hhi⟩,rfl⟩
  | int bits =>
    rw [ofJson, located_eq_ok_iff, integerIn_eq_ok_iff]
    constructor
    · rintro ⟨n,hread,⟨hlo,hhi⟩,rfl⟩
      exact .int hread (by exact_mod_cast hlo) (by exact_mod_cast hhi)
    · intro h
      cases h with
      | int hread hlo hhi => exact ⟨_,hread,⟨by exact_mod_cast hlo,by exact_mod_cast hhi⟩,rfl⟩
  | fixedBytes size =>
    rw [ofJson, readBytes_eq_ok_iff]
    constructor
    · rintro ⟨s,bs,rfl,hread,hcheck⟩
      unfold fixedBytesOf at hcheck
      split_ifs at hcheck with hsize
      cases hcheck
      exact .fixedBytes hread hsize
    · intro h
      cases h with
      | fixedBytes hread hsize => exact ⟨_,_,rfl,hread,if_pos hsize⟩
  | bytes =>
    rw [ofJson, readBytes_eq_ok_iff]
    constructor
    · rintro ⟨s,bs,rfl,hread,hcheck⟩
      cases hcheck
      exact .bytes hread
    · intro h
      cases h with
      | bytes hread => exact ⟨_,_,rfl,hread,rfl⟩
  | string =>
    constructor
    · intro h
      unfold ofJson at h
      split at h
      · cases h
        exact .string
      · cases h
    · intro h
      cases h with
      | string => rw [ofJson]
  | array item ih =>
    constructor
    · intro h
      unfold ofJson at h
      split at h
      · obtain ⟨vs,hitems,rfl⟩ := (listOfItems_eq_ok_iff fun _ _ => ih).mp h
        exact .array hitems
      · cases h
    · intro h
      cases h with
      | array hitems =>
        rw [ofJson]
        exact (listOfItems_eq_ok_iff fun _ _ => ih).mpr ⟨_,hitems,rfl⟩
  | fixedArray item size ih =>
    constructor
    · intro h
      unfold ofJson at h
      split at h
      · split_ifs at h with hsize
        obtain ⟨vs,hitems,rfl⟩ := (listOfItems_eq_ok_iff fun _ _ => ih).mp h
        exact .fixedArray hsize hitems
      · cases h
    · intro h
      cases h with
      | fixedArray hsize hitems =>
        rw [ofJson, if_pos hsize]
        exact (listOfItems_eq_ok_iff fun _ _ => ih).mpr ⟨_,hitems,rfl⟩
  | tuple fields ih =>
    rw [ofJson, Result.bind_eq_ok_iff]
    have hfields {members : List Json} {vs : List Value} (hlen : members.length = fields.length) :
        ofMembers fields members = .ok vs ↔
          DenoteAll (fields.map Prod.snd) .decimal members vs :=
      ofMembers_eq_ok_iff (fun f hf _ _ => ih f hf) hlen
    constructor
    · rintro ⟨members,hmembers,h⟩
      obtain ⟨vs,hvs,h⟩ := Result.bind_eq_ok_iff.mp h
      cases h
      have hgiven := tupleMembers_eq_ok_iff.mp hmembers
      exact .tuple hgiven ((hfields hgiven.length_eq).mp hvs)
    · intro h
      cases h with
      | tuple hgiven hvs =>
        exact ⟨_,tupleMembers_eq_ok_iff.mpr hgiven,
          Result.bind_eq_ok_iff.mpr ⟨_,(hfields hgiven.length_eq).mpr hvs,rfl⟩⟩

/-- Arguments are read as the values that they denote, in base 16 where no marker says so. -/
theorem ofArgs_eq_ok_iff {tys : List Ty} {args : List Json} {vs : List Value}
    (hlen : args.length = tys.length) :
    ofArgs tys args = .ok vs ↔ DenoteAll tys .hex args vs := by
  induction tys generalizing args vs with
  | nil =>
    obtain rfl := List.length_eq_zero_iff.mp hlen
    exact ⟨fun h => Except.ok.inj h ▸ .nil,fun h => by cases h; rfl⟩
  | cons ty tys ih =>
    obtain ⟨j,js,rfl⟩ := List.exists_cons_of_length_eq_add_one hlen
    have hrest (ws : List Value) : ofArgs tys js = .ok ws ↔ DenoteAll tys .hex js ws :=
      ih (Nat.succ.inj hlen)
    rw [ofArgs, Result.cons_eq_ok_iff, denoteAll_cons_iff]
    simp only [ofJson_eq_ok_iff, hrest]

end DeployCheck.Abi.Value
