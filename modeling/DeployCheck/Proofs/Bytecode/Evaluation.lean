import DeployCheck.Proofs.Bytecode.Display
import DeployCheck.Proofs.Bytecode.Listing
import DeployCheck.Proofs.Text.HexReading

/-! Evaluation always ends in a comparison once both codes were read, and all of it but the listing
of differences is a function of the two trimmed codes. It fails only where a code has no normal
form. -/
namespace DeployCheck.Bytecode

open Text

lemma mem_mismatches_iff (i : Nat) (actual expected : List Instruction) :
    i ∈ mismatches actual expected ↔
      ∃ a e, actual[i]? = some a ∧ expected[i]? = some e ∧ a.raw ≠ e.raw := by
  simp only [mismatches, List.mem_map, List.mem_filter, Prod.exists,
    List.mk_mem_zipIdx_iff_getElem?, List.getElem?_zip_eq_some, Bool.not_eq_true',
    ← Bool.not_eq_true, Instruction.sameBytes_iff, and_assoc]
  constructor
  · rintro ⟨a,e,_,ha,he,hne,rfl⟩
    exact ⟨a,e,ha,he,hne⟩
  · rintro ⟨a,e,ha,he,hne⟩
    exact ⟨a,e,i,ha,he,hne,rfl⟩

lemma ascending_mismatches (actual expected : List Instruction) :
    (mismatches actual expected).Pairwise (· < ·) := by
  have hindices : ((actual.zip expected).zipIdx.map Prod.snd).Pairwise (· < ·) := by
    rw [List.zipIdx_map_snd]
    exact List.pairwise_lt_range'
  exact hindices.sublist (List.filter_sublist.map _)

lemma isTolerated_iff (refs : Immutables) (expected : List Instruction) (i : Nat) :
    isTolerated refs expected i = true ↔
      ∃ e, expected[i]? = some e ∧ refs.overlaps e.pc e.length = true := by
  cases h : expected[i]? <;> simp [isTolerated, h]

/-- The comparison of two trimmed codes with a given listing of their differences. -/
def comparisonOf (refs : Immutables) (actual expected : Trimmed) (diff : Option (List Row)) :
    Comparison where
  actualLength := (disassemble actual.code).length
  expectedLength := (disassemble expected.code).length
  immutableMismatches :=
    (mismatches (disassemble actual.code) (disassemble expected.code)).filter
      (isTolerated refs (disassemble expected.code))
  realMismatches :=
    (mismatches (disassemble actual.code) (disassemble expected.code)).filter
      (fun i => !isTolerated refs (disassemble expected.code) i)
  unassigned := unassigned (disassemble actual.code ++ disassemble expected.code)
  actualLiteral := actual.literalText
  expectedLiteral := expected.literalText
  diff := diff

/-- The listing that the comparison of two streams carries: none for equal streams, otherwise the
rows of the display set. -/
inductive IsListing (context : Nat) (actual expected : List Instruction) (tolerated : List Nat) :
    Option (List Row) → Prop
  | none (hsame : mismatches actual expected = [] ∧ actual.length = expected.length) :
      IsListing context actual expected tolerated none
  | some {rows : List Row} (hdiff : ¬(mismatches actual expected = [] ∧
        actual.length = expected.length))
      (hrows : rowsAt actual expected tolerated (displayIndices (mismatches actual expected)
        actual.length expected.length context) = .ok rows) :
      IsListing context actual expected tolerated (some rows)

/-- Every index shown has a row, so different streams have a listing. -/
lemma exists_isListing (context : Nat) {actual expected : List Instruction} (tolerated : List Nat)
    (hdiff : ¬(mismatches actual expected = [] ∧ actual.length = expected.length)) :
    ∃ rows, rowsAt actual expected tolerated (displayIndices (mismatches actual expected)
      actual.length expected.length context) = .ok rows := by
  -- the streams are not both empty, since they differ somewhere
  have hpos : 0 < max actual.length expected.length := by
    by_contra hzero
    obtain ⟨rfl,rfl⟩ : actual = [] ∧ expected = [] := by
      constructor <;> apply List.length_eq_zero_iff.mp <;> omega
    simp [mismatches] at hdiff
  refine exists_rowsAt tolerated fun i hi => lt_max_of_mem_displayIndices ?_ hpos hi
  intro m hm
  obtain ⟨x,y,hx,-,-⟩ := (mem_mismatches_iff _ _ _).mp hm
  have := (List.getElem?_eq_some_iff.mp hx).1
  omega

/-- Two trimmed codes always have a comparison. -/
theorem exists_compareTrimmed (refs : Immutables) (context : Nat) (actual expected : Trimmed) :
    ∃ diff, compareTrimmed refs context actual expected =
        .ok (comparisonOf refs actual expected diff) ∧
      IsListing context (disassemble actual.code) (disassemble expected.code)
        (comparisonOf refs actual expected diff).immutableMismatches diff := by
  unfold compareTrimmed comparisonOf
  generalize disassemble actual.code = a
  generalize disassemble expected.code = e
  simp only [List.partition_eq_filter_filter]
  by_cases hsame : mismatches a e = [] ∧ a.length = e.length
  · refine ⟨none,?_,.none hsame⟩
    rw [if_pos (by simp [hsame])]
    rfl
  · obtain ⟨rows,hrows⟩ :=
      exists_isListing context ((mismatches a e).filter (isTolerated refs e)) hsame
    refine ⟨some rows,?_,.some hsame hrows⟩
    rw [if_neg (by simpa using hsame), hrows]
    rfl

lemma evaluate_of_read (context : Nat) (refs : Immutables) {actual expected : String}
    {p q : List UInt8} (hp : Hex.read actual = .ok p) (hq : Hex.read expected = .ok q) :
    evaluate context refs actual expected = compareTrimmed refs context (trim p) (trim q) := by
  simp only [evaluate, readTrimmed, hp, hq]
  rfl

/-- Code that has a normal form on both sides has a comparison. -/
theorem exists_evaluate (context : Nat) (refs : Immutables) {actual expected : String}
    {p q : List UInt8} (hp : Hex.read actual = .ok p) (hq : Hex.read expected = .ok q) :
    ∃ diff, evaluate context refs actual expected =
      .ok (comparisonOf refs (trim p) (trim q) diff) := by
  obtain ⟨diff,hdiff,-⟩ := exists_compareTrimmed refs context (trim p) (trim q)
  exact ⟨diff,(evaluate_of_read context refs hp hq).trans hdiff⟩

/-- A comparison comes from two codes that were read. -/
theorem eq_comparisonOf_of_evaluate {context : Nat} {refs : Immutables} {actual expected : String}
    {c : Comparison} (h : evaluate context refs actual expected = .ok c) :
    ∃ p q diff, Hex.read actual = .ok p ∧ Hex.read expected = .ok q ∧
      c = comparisonOf refs (trim p) (trim q) diff := by
  cases hp : Hex.read actual with
  | error e => simp [evaluate, readTrimmed, hp, bind, Except.bind] at h
  | ok p =>
    cases hq : Hex.read expected with
    | error e => simp [evaluate, readTrimmed, hp, hq, bind, Except.bind] at h
    | ok q =>
      obtain ⟨diff,heq⟩ := exists_evaluate context refs hp hq
      rw [heq] at h
      exact ⟨p,q,diff,rfl,rfl,(Except.ok.inj h).symm⟩

/-! ## Failures -/

/-- Why a pair of codes is not read: the first of the two without a normal form is at fault. -/
inductive Unreadable (actual expected : String) : Hex.Error → Prop
  | actual {cause : Hex.Error} (h : Hex.normalize actual.toList = .error cause) :
      Unreadable actual expected cause
  | expected {ds : List Char} {cause : Hex.Error} (hread : Hex.normalize actual.toList = .ok ds)
      (h : Hex.normalize expected.toList = .error cause) : Unreadable actual expected cause

lemma unreadable_or_normal (actual expected : String) :
    (∃ cause, Unreadable actual expected cause) ∨
      (∃ ds, Hex.normalize actual.toList = .ok ds) ∧
        ∃ ds, Hex.normalize expected.toList = .ok ds := by
  cases ha : Hex.normalize actual.toList with
  | error cause => exact .inl ⟨cause,.actual ha⟩
  | ok ds =>
    cases he : Hex.normalize expected.toList with
    | error cause => exact .inl ⟨cause,.expected ha he⟩
    | ok es => exact .inr ⟨⟨ds,rfl⟩,es,rfl⟩

lemma Unreadable.not_normal {actual expected : String} {cause : Hex.Error}
    (h : Unreadable actual expected cause) :
    ¬((∃ ds, Hex.normalize actual.toList = .ok ds) ∧
      ∃ ds, Hex.normalize expected.toList = .ok ds) := by
  rintro ⟨⟨ds,ha⟩,es,he⟩
  cases h with
  | actual h => simp [ha] at h
  | expected _ h => simp [he] at h

lemma readTrimmed_of_normalize_error {text : String} {cause : Hex.Error}
    (h : Hex.normalize text.toList = .error cause) : readTrimmed text = .error (.decode cause) := by
  have hread : Hex.read text = .error cause := by simp [Hex.read, h, bind, Except.bind]
  simp [readTrimmed, hread]

lemma evaluate_of_unreadable (context : Nat) (refs : Immutables) {actual expected : String}
    {cause : Hex.Error} (h : Unreadable actual expected cause) :
    evaluate context refs actual expected = .error (.decode cause) := by
  unfold evaluate
  cases h with
  | actual ha =>
    rw [readTrimmed_of_normalize_error ha]
    rfl
  | expected ha he =>
    obtain ⟨p,hp,-⟩ := Hex.exists_read_of_normalize ha
    rw [readTrimmed_of_normalize_error he]
    simp [readTrimmed, hp, bind, Except.bind]

lemma exists_evaluate_of_normalize (context : Nat) (refs : Immutables) {actual expected : String}
    {ds es : List Char} (ha : Hex.normalize actual.toList = .ok ds)
    (he : Hex.normalize expected.toList = .ok es) :
    ∃ c, evaluate context refs actual expected = .ok c := by
  obtain ⟨p,hp,-⟩ := Hex.exists_read_of_normalize ha
  obtain ⟨q,hq,-⟩ := Hex.exists_read_of_normalize he
  obtain ⟨diff,hc⟩ := exists_evaluate context refs hp hq
  exact ⟨_,hc⟩

/-- A comparison fails exactly where one of the codes has no normal form, with the fault of the
first such code. Two codes that are read are always compared, so no index shown lacks a row. -/
theorem evaluate_eq_error_iff (context : Nat) (refs : Immutables) (actual expected : String) :
    (∀ e, evaluate context refs actual expected = .error e ↔
      ∃ cause, e = .decode cause ∧ Unreadable actual expected cause) ∧
    ((∃ c, evaluate context refs actual expected = .ok c) ↔
      (∃ ds, Hex.normalize actual.toList = .ok ds) ∧
        ∃ ds, Hex.normalize expected.toList = .ok ds) ∧
    ∀ i, evaluate context refs actual expected ≠ .error (.invalidDifference i) := by
  rcases unreadable_or_normal actual expected with ⟨cause,hcause⟩ | hnormal
  · have heval := evaluate_of_unreadable context refs hcause
    have hfirst : ∀ other, Unreadable actual expected other → other = cause := by
      intro other hother
      simpa [heval] using (evaluate_of_unreadable context refs hother).symm
    refine ⟨fun e => ⟨fun h => ?_,?_⟩,iff_of_false (by simp [heval]) hcause.not_normal,?_⟩
    · exact ⟨cause,by simpa [heval] using h.symm,hcause⟩
    · rintro ⟨other,rfl,hother⟩
      rw [heval, hfirst other hother]
    · simp [heval]
  · obtain ⟨⟨ds,ha⟩,es,he⟩ := hnormal
    obtain ⟨c,hc⟩ := exists_evaluate_of_normalize context refs ha he
    refine ⟨fun e => iff_of_false (by simp [hc]) ?_,iff_of_true ⟨c,hc⟩ ⟨⟨ds,ha⟩,es,he⟩,by simp [hc]⟩
    rintro ⟨cause,-,hcause⟩
    exact hcause.not_normal ⟨⟨ds,ha⟩,es,he⟩

end DeployCheck.Bytecode
