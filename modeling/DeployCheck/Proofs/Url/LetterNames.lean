import DeployCheck.Proofs.Text.Cuts
import DeployCheck.Proofs.Text.Encoded
import DeployCheck.Proofs.Text.HexReading
import DeployCheck.Url.Host

/-! Domain names of small letters. They stand for themselves: nothing in them is mapped, coded or
read as a number. -/
namespace DeployCheck.Url

/-- A name whose labels are small letters, at least one in each. -/
structure IsLetterName (name : List Char) : Prop where
  nonempty : [] ∉ Text.split '.' name
  letters : ∀ label ∈ Text.split '.' name, label.all Char.isLower = true

variable {α β : Type} {name : List Char}

lemma isLower_iff {c : Char} : c.isLower = true ↔ 97 ≤ c.toNat ∧ c.toNat ≤ 122 := by
  change (c.val ≥ 97 && c.val ≤ 122) = true ↔ _
  simp only [Bool.and_eq_true, decide_eq_true_eq, ge_iff_le, UInt32.le_iff_toNat_le]
  rfl

lemma ne_of_isLower {c d : Char} (h : c.isLower = true) (hd : d.isLower = false) : c ≠ d := by
  rintro rfl
  exact Bool.false_ne_true (hd.symm.trans h)

lemma isDigit_of_isLower {c : Char} (h : c.isLower = true) : c.isDigit = false := by
  have hrange := isLower_iff.mp h
  rw [Bool.eq_false_iff]
  intro hc
  have hle : c.toNat ≤ 57 := (Char.isDigit_iff_toNat.mp hc).2
  omega

/-- A label that begins with a small letter is no number. -/
lemma ipv4Number?_of_isLower {c : Char} (h : c.isLower = true) (cs : List Char) :
    Host.ipv4Number? (c :: cs) = none := by
  have hrange := isLower_iff.mp h
  have hzero : c ≠ '0' := ne_of_isLower h (by decide)
  have hvalue : Text.digitValue 10 c = none := by
    have hnot : ¬(48 ≤ c.toNat ∧ c.toNat ≤ 57) := by omega
    have hlarge : ¬c.toNat - 97 + 10 < 10 := by omega
    simp only [Text.digitValue_eq, if_neg hnot, if_pos hrange, if_neg hlarge]
  unfold Host.ipv4Number?
  split
  next radix digits heq =>
  split at heq
  case h_4 =>
    cases heq
    simp [Text.natOfDigits, Text.digitsFrom, hvalue]
  all_goals
    next hlead => exact absurd (List.cons.inj hlead).1 hzero

lemma percentDecode_of_not_mem {cs : List Char} (h : '%' ∉ cs) :
    Host.percentDecode cs = (String.ofList cs).toUTF8.toList := by
  induction cs with
  | nil => simp [Host.percentDecode]
  | cons c cs ih =>
    obtain ⟨hc,hcs⟩ := List.ne_and_not_mem_of_not_mem_cons h
    rw [Host.percentDecode, ih hcs]
    · simp only [Text.toList_toUTF8, String.toList_ofList, List.flatMap_cons, List.flatMap_nil,
        List.append_nil]
    · rintro _ _ _ rfl
      exact absurd rfl hc

lemma mapM_eq_some_of_forall {f : α → Option β} {g : α → β} {as : List α}
    (h : ∀ a ∈ as, f a = some (g a)) : as.mapM f = some (as.map g) := by
  induction as with
  | nil => rfl
  | cons a as ih =>
    obtain ⟨ha,has⟩ := List.forall_mem_cons.mp h
    rw [List.mapM_cons, ha, ih has]
    rfl

namespace IsLetterName

variable (h : IsLetterName name)

include h

lemma isLower_of_mem {label : List Char} (hlabel : label ∈ Text.split '.' name) :
    ∀ c ∈ label, c.isLower = true :=
  List.all_eq_true.mp (h.letters label hlabel)

lemma isLower_or_dot : ∀ c ∈ name, c.isLower = true ∨ c = '.' := by
  intro c hc
  have hmem : c ∈ (Text.split '.' name).flatMap fun part => '.' :: part := by
    rw [Text.flatMap_split]
    exact List.mem_cons_of_mem _ hc
  obtain ⟨label,hlabel,hmem⟩ := List.mem_flatMap.mp hmem
  rcases List.mem_cons.mp hmem with rfl | hmem
  · exact .inr rfl
  · exact .inl (h.isLower_of_mem hlabel c hmem)

lemma ne_nil : name ≠ [] := by
  rintro rfl
  exact h.nonempty (by simp [Text.split])

/-- What holds of small letters and of the dot holds of every character. -/
lemma forall_mem {P : Char → Prop} (hletter : ∀ c, 97 ≤ c.toNat → c.toNat ≤ 122 → P c)
    (hdot : P '.') : ∀ c ∈ name, P c := by
  intro c hc
  rcases h.isLower_or_dot c hc with hlower | rfl
  · exact hletter c (isLower_iff.mp hlower).1 (isLower_iff.mp hlower).2
  · exact hdot

lemma not_mem {d : Char} (hd : d.isLower = false) (hdot : d ≠ '.') : d ∉ name := by
  intro hmem
  rcases h.isLower_or_dot d hmem with hlower | rfl
  · exact ne_of_isLower hlower hd rfl
  · exact hdot rfl

lemma image?_of_mem {c : Char} (hc : c ∈ name) : NameMapping.image? c = some [c] := by
  have hlow : c.toNat < 0x80 ∧ ¬(65 ≤ c.toNat ∧ c.toNat ≤ 90) :=
    h.forall_mem (P := fun c => c.toNat < 0x80 ∧ ¬(65 ≤ c.toNat ∧ c.toNat ≤ 90))
      (fun c _ _ => by omega) (by decide) c hc
  have hlower : c.toLower = c := by
    rw [← Char.toNat_inj, Text.toNat_toLower, if_neg hlow.2]
  unfold NameMapping.image?
  dsimp only
  rw [if_pos hlow.1, hlower]

lemma mapped?_eq : NameMapping.mapped? name = some name := by
  have hmap : name.mapM NameMapping.image? = some (name.map fun c => [c]) :=
    mapM_eq_some_of_forall fun _ hc => h.image?_of_mem hc
  rw [NameMapping.mapped?, hmap, Option.map_some, ← List.flatMap_def, List.flatMap_singleton']

lemma composed_eq : Text.composed name = name := by
  have hlow : name.all fun c => c.toNat < 0x300 := by
    rw [List.all_eq_true]
    exact h.forall_mem (fun c _ _ => by simp; omega) (by decide)
  rw [Text.composed, if_pos hlow]

lemma isAscii_of_mem {label : List Char} (hlabel : label ∈ Text.split '.' name) :
    Domain.isAscii label = true := by
  rw [Domain.isAscii, List.all_eq_true]
  intro c hc
  have hrange := isLower_iff.mp (h.isLower_of_mem hlabel c hc)
  rw [decide_eq_true_eq]
  omega

lemma meant?_of_mem {label : List Char} (hlabel : label ∈ Text.split '.' name) :
    Domain.meant? label = some label := by
  have hcode : Text.after? "xn--".toList label = none := by
    rw [Option.eq_none_iff_forall_ne_some]
    intro rest hrest
    have hlow := h.isLower_of_mem hlabel '-' (by simp [Text.after?_eq_some_iff.mp hrest])
    exact absurd hlow (by decide)
  rw [Domain.meant?, hcode]
  simp [h.isAscii_of_mem hlabel]

/-- Letters keep the direction of a name. -/
lemma keepsDirections_labels : keepsDirections (Text.split '.' name) = true := by
  have hmatters : ∀ label ∈ Text.split '.' name, ∀ c ∈ label,
      (Direction.ofChar c).matters = false := by
    intro label hlabel c hc
    have hrange := isLower_iff.mp (h.isLower_of_mem hlabel c hc)
    have hlow : c.toNat < 0x80 := by omega
    unfold Direction.ofChar
    dsimp only
    rw [if_pos hlow]
    split_ifs <;> rfl
  simp only [keepsDirections, Bool.or_eq_true, Bool.not_eq_true', List.any_eq_false,
    Bool.not_eq_true]
  exact .inl hmatters

lemma toAscii?_eq : Domain.toAscii? name = some name := by
  have hmeant : (Domain.labels name).mapM Domain.meant? = some (Domain.labels name) :=
    (mapM_eq_some_of_forall fun _ hlabel => h.meant?_of_mem hlabel).trans (congrArg some (List.map_id' _))
  have hallowed : name.any Domain.isForbidden = false := by
    rw [List.any_eq_false]
    have hsafe : ∀ n ∈ List.range 26, Domain.isForbidden (Char.ofNat (97 + n)) = false := by decide
    refine h.forall_mem (fun c hlo hhi => ?_) (by decide)
    have hc := hsafe (c.toNat - 97) (List.mem_range.mpr (by omega))
    rw [Nat.add_sub_cancel' hlo, Char.ofNat_toNat] at hc
    simp [hc]
  have hcoded : (Domain.labels name).map Domain.asciiLabel = Domain.labels name := by
    refine (List.map_congr_left fun label hlabel => ?_).trans (List.map_id _)
    exact if_pos (h.isAscii_of_mem hlabel)
  have hdirections : keepsDirections (Domain.labels name) = true := h.keepsDirections_labels
  unfold Domain.toAscii?
  rw [h.mapped?_eq, Option.bind_eq_bind, Option.bind_some]
  dsimp only
  rw [h.composed_eq, hmeant, Option.bind_eq_bind, Option.bind_some, hallowed, hdirections, hcoded]
  exact congrArg some (Text.intercalate_split '.' name)

/-- The last label of a name of letters is no number. -/
lemma endsInNumber_eq : Host.endsInNumber name = false := by
  have hlast : ∀ label ∈ Text.split '.' name,
      ((!label.isEmpty && label.all Char.isDigit) || (Host.ipv4Number? label).isSome) = false := by
    intro label hlabel
    obtain ⟨c,label,rfl⟩ := List.exists_cons_of_ne_nil
      (show label ≠ [] from fun hnil => h.nonempty (hnil ▸ hlabel))
    have hlower := h.isLower_of_mem hlabel c List.mem_cons_self
    simp [isDigit_of_isLower hlower, ipv4Number?_of_isLower hlower]
  have hmem : ∀ label ∈ (Domain.labels name).reverse, label ∈ Text.split '.' name :=
    fun _ => List.mem_reverse.mp
  unfold Host.endsInNumber
  split
  · next heq =>
    exact absurd (hmem [] (by simp [heq])) h.nonempty
  · next label rest hne heq =>
    exact hlast label (hmem label (by simp [heq]))
  · next heq => exact absurd (List.reverse_eq_nil_iff.mp heq) (Text.split_ne_nil _ _)

/-- A name of letters is a host, and written as it is. -/
theorem ofSpecial_eq : Host.ofSpecial name = .ok (.domain name) := by
  have hbracket : Host.bracketed? name = none := by
    unfold Host.bracketed?
    split
    · next inner =>
      exact absurd List.mem_cons_self (h.not_mem (d := '[') (by decide) (by decide))
    · rfl
  have hpercent : '%' ∉ name := h.not_mem (by decide) (by decide)
  have hempty : name.isEmpty = false := by simpa using h.ne_nil
  unfold Host.ofSpecial
  rw [hbracket, percentDecode_of_not_mem hpercent, Text.fromUTF8?_toUTF8]
  dsimp only
  rw [String.toList_ofList, h.toAscii?_eq]
  dsimp only
  rw [hempty, h.endsInNumber_eq]
  rfl

end IsLetterName

end DeployCheck.Url
