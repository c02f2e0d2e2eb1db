import DeployCheck.Proofs.Text.StrictHex
import Mathlib

/-! What pasted code is accepted. The reader takes an even number of digits behind at most one
marker, with blanks anywhere, and otherwise names the first character that is no digit. -/
namespace DeployCheck.Text.Hex

/-- The digits, those above nine in either letter case. -/
def digitChars : List Char := "0123456789abcdefABCDEF".toList

/-- A text without the marker that it starts with, or the text itself if it starts with none. -/
inductive Unmarked : List Char → List Char → Prop
  | lower (rest : List Char) : Unmarked ('0' :: 'x' :: rest) rest
  | upper (rest : List Char) : Unmarked ('0' :: 'X' :: rest) rest
  | none {cs : List Char} (hlower : ∀ rest, cs ≠ '0' :: 'x' :: rest)
      (hupper : ∀ rest, cs ≠ '0' :: 'X' :: rest) : Unmarked cs cs

/-- What comes of a text that has neither blanks nor a marker. -/
inductive Outcome (cs : List Char) : Except Error (List Char) → Prop
  | digits (hdigits : ∀ c ∈ cs, c ∈ digitChars) (heven : Even cs.length) :
    Outcome cs (.ok (cs.map Char.toLower))
  | stray {front rest : List Char} {c : Char} (hsplit : cs = front ++ c :: rest)
      (hfront : ∀ d ∈ front, d ∈ digitChars) (hstray : c ∉ digitChars) :
    Outcome cs (.error (.invalidCharacter c (String.ofList front).utf8ByteSize))
  | odd (hdigits : ∀ c ∈ cs, c ∈ digitChars) (hodd : Odd cs.length) :
    Outcome cs (.error .oddLength)

/-- The digits of bytes in any letter case, behind a marker or not, with blanks anywhere. -/
def Writes (bs : List UInt8) (cs : List Char) : Prop :=
  ∃ digits : List Char, digits.map Char.toLower = (encode bs).toList ∧
    (cs.filter (fun c => !isBlank c) = digits ∨
      cs.filter (fun c => !isBlank c) = '0' :: 'x' :: digits ∨
      cs.filter (fun c => !isBlank c) = '0' :: 'X' :: digits)

/-! ## Markers and digits -/

lemma isDigit_iff_mem (c : Char) : isDigit c = true ↔ c ∈ digitChars := by
  have hcodes : digitChars.map Char.toNat = List.range' 48 10 ++ (List.range' 97 6 ++
      List.range' 65 6) := by decide
  have hinj : Function.Injective Char.toNat := fun _ _ => Char.toNat_inj.mp
  rw [isDigit_iff, ← List.mem_map_of_injective hinj, hcodes]
  simp only [List.mem_append, List.mem_range'_1]
  omega

lemma unmarked_iff {cs rest : List Char} : Unmarked cs rest ↔ rest = dropMarker cs := by
  constructor
  · intro h
    cases h with
    | lower => rfl
    | upper => rfl
    | none hlower hupper =>
      rcases dropMarker_cases cs with h | h | h
      · exact h
      · exact absurd h (hlower _)
      · exact absurd h (hupper _)
  · rintro rfl
    unfold dropMarker
    split
    · exact .lower _
    · exact .upper _
    · next hlower hupper => exact .none hlower hupper

/-! ## The first character that is no digit -/

lemma firstInvalid_append {front : List Char} (hfront : ∀ d ∈ front, isDigit d = true) {c : Char}
    (hc : isDigit c = false) (offset : Nat) (rest : List Char) :
    firstInvalid offset (front ++ c :: rest) =
      some (c,offset + (String.ofList front).utf8ByteSize) := by
  induction front generalizing offset with
  | nil => simp [firstInvalid, hc]
  | cons d front ih =>
    rw [List.forall_mem_cons] at hfront
    rw [List.cons_append, firstInvalid, if_pos hfront.1, ih hfront.2, String.ofList_cons,
      String.utf8ByteSize_append, String.utf8ByteSize_singleton, Nat.add_assoc]

lemma exists_stray {cs : List Char} (h : ¬∀ c ∈ cs, isDigit c = true) : ∃ front c rest,
    cs = front ++ c :: rest ∧ (∀ d ∈ front, isDigit d = true) ∧ isDigit c = false := by
  have hne : cs.dropWhile isDigit ≠ [] := by rwa [Ne, List.dropWhile_eq_nil_iff]
  obtain ⟨c,rest,hrest⟩ := List.exists_cons_of_ne_nil hne
  have hstop := List.head_dropWhile_not isDigit hne
  simp only [hrest, List.head_cons] at hstop
  refine ⟨cs.takeWhile isDigit,c,rest,?_,fun d hd => List.mem_takeWhile_imp hd,hstop⟩
  rw [← hrest, List.takeWhile_append_dropWhile]

/-- Every text has one outcome, the one that is found. -/
theorem normalize_eq_iff {cs : List Char} {r : Except Error (List Char)} :
    normalize cs = r ↔ Outcome (payload cs) r := by
  rw [normalize_eq]
  generalize payload cs = ds
  constructor
  · rintro rfl
    by_cases hdigits : ∀ c ∈ ds, isDigit c = true
    · have hchars : ∀ c ∈ ds, c ∈ digitChars := fun c hc => (isDigit_iff_mem c).mp (hdigits c hc)
      rw [(firstInvalid_eq_none_iff 0 ds).mpr hdigits]
      dsimp only
      split
      · next heven => exact .digits hchars (Nat.even_iff.mpr heven)
      · next hodd => exact .odd hchars (Nat.odd_iff.mpr (by omega))
    · obtain ⟨front,c,rest,rfl,hfront,hc⟩ := exists_stray hdigits
      rw [firstInvalid_append hfront hc 0 rest, Nat.zero_add]
      refine .stray rfl (fun d hd => (isDigit_iff_mem d).mp (hfront d hd)) ?_
      rw [← isDigit_iff_mem, hc]
      exact Bool.false_ne_true
  · intro h
    cases h with
    | digits hdigits heven =>
      have hnone := (firstInvalid_eq_none_iff 0 ds).mpr fun c hc =>
        (isDigit_iff_mem c).mpr (hdigits c hc)
      simp only [hnone, Nat.even_iff.mp heven, if_true]
    | @stray front rest c hsplit hfront hstray =>
      have hc : isDigit c = false := by
        rw [← isDigit_iff_mem] at hstray
        exact Bool.eq_false_of_not_eq_true hstray
      have hfirst := firstInvalid_append (fun d hd => (isDigit_iff_mem d).mpr (hfront d hd)) hc
        0 rest
      simp only [hsplit, hfirst, Nat.zero_add]
    | odd hdigits hodd =>
      have hnone := (firstInvalid_eq_none_iff 0 ds).mpr fun c hc =>
        (isDigit_iff_mem c).mpr (hdigits c hc)
      have hlength := Nat.odd_iff.mp hodd
      simp only [hnone, hlength, Nat.one_ne_zero, if_false]

/-! ## Normal forms and bytes -/

/-- A normal form is the normal form of itself. -/
theorem normalize_of_normalize {cs ds : List Char} (h : normalize cs = .ok ds) :
    normalize ds = .ok ds := by
  obtain ⟨hdigits,heven⟩ := digits_of_normalize h
  obtain ⟨-,-,rfl⟩ := normalize_eq_ok_iff.mp h
  rw [normalize_eq_ok_iff, payload_of_digits hdigits]
  exact ⟨hdigits,heven,by simp⟩

lemma toLower_of_digitValue {c : Char} {v : Nat} (h : digitValue 16 c = some v) :
    c.toLower = digit v ∧ v < 16 := by
  have hall : digitChars.all fun c => (digitValue 16 c).all fun v =>
      c.toLower == digit v && v < 16 := by decide
  have hdigit : isDigit c = true := by rw [isDigit, h]; rfl
  have hc := List.all_eq_true.mp hall c ((isDigit_iff_mem c).mp hdigit)
  simpa [h] using hc

lemma pair_ofNat {h l : Nat} (hh : h < 16) (hl : l < 16) :
    pair (UInt8.ofNat (16 * h + l)) = [digit h,digit l] := by
  have hhigh : (16 * h + l) / 16 = h := by omega
  have hlow : (16 * h + l) % 16 = l := by omega
  rw [pair, UInt8.toNat_ofNat', Nat.mod_eq_of_lt (by omega), hhigh, hlow]

lemma map_toLower_of_bytes {cs : List Char} {bs : List UInt8} (h : bytes cs = some bs) :
    cs.map Char.toLower = bs.flatMap pair := by
  match cs with
  | [] =>
    cases h
    rfl
  | [_] => cases h
  | hi :: lo :: rest =>
    obtain ⟨hv,lv,tail,hhi,hlo,hrest,rfl⟩ := bytes_cons_cons.mp h
    obtain ⟨hhigh,hhv⟩ := toLower_of_digitValue hhi
    obtain ⟨hlow,hlv⟩ := toLower_of_digitValue hlo
    rw [List.map_cons, List.map_cons, List.flatMap_cons, pair_ofNat hhv hlv,
      map_toLower_of_bytes hrest, hhigh, hlow]
    rfl

/-- A text has bytes exactly if, but for the letter case, it is what these bytes are written as. -/
theorem bytes_eq_some_iff {cs : List Char} {bs : List UInt8} :
    bytes cs = some bs ↔ cs.map Char.toLower = (encode bs).toList := by
  rw [encode, String.toList_ofList]
  constructor
  · exact map_toLower_of_bytes
  · intro h
    rw [← bytes_map_toLower, h, bytes_flatMap_pair]

theorem writes_iff {bs : List UInt8} {cs : List Char} :
    Writes bs cs ↔ bytes (payload cs) = some bs := by
  constructor
  · rintro ⟨digits,hwritten,hkept⟩
    have hbytes := bytes_eq_some_iff.mpr hwritten
    rwa [payload, dropMarker_of_marked (digits_of_bytes hbytes).1 hkept]
  · intro h
    exact ⟨_,bytes_eq_some_iff.mp h,dropMarker_cases _⟩

/-! ## The grammar -/

/-- Pasted code without its blanks and one marker has one outcome: its lowercase if it is an even
number of digits, an error with the first character that is no digit and the offset of that
character in bytes, or an error for a digit that stands alone. A normal form is its own, and bytes
are read from exactly the texts that write them: in any letter case, behind a marker or not, with
blanks anywhere. -/
theorem normalize_grammar :
    (∀ cs r, normalize cs = r ↔
      ∃ rest, Unmarked (cs.filter fun c => !isBlank c) rest ∧ Outcome rest r) ∧
    (∀ cs ds, normalize cs = .ok ds → normalize ds = .ok ds) ∧
    (∀ s bs, read s = .ok bs ↔ Writes bs s.toList) := by
  refine ⟨fun cs r => ?_,fun _ _ => normalize_of_normalize,fun s bs => ?_⟩
  · simp only [normalize_eq_iff, unmarked_iff, exists_eq_left, payload]
  · rw [read_eq_ok_iff, writes_iff]

/-- Blanks inside the marker and the digits, and a second marker. -/
theorem normalize_grammar_blanks :
    normalize "0\u2003X 0a Bc".toList = .ok "0abc".toList ∧
      normalize "0abc".toList = .ok "0abc".toList ∧ read "0\u2003X 0a Bc" = .ok [0x0a,0xbc] ∧
      normalize "0x0x1".toList = .error (.invalidCharacter 'x' 1) := by
  obtain ⟨houtcome,hidem,hread⟩ := normalize_grammar
  have hkept : ("0\u2003X 0a Bc".toList.filter fun c => !isBlank c) =
      '0' :: 'X' :: "0aBc".toList := by decide
  have hdigits : "0aBc".toList ⊆ digitChars := by decide
  have hnormal : normalize "0\u2003X 0a Bc".toList = .ok "0abc".toList :=
    (houtcome _ _).mpr ⟨"0aBc".toList,hkept ▸ .upper _,.digits hdigits (by decide)⟩
  refine ⟨hnormal,hidem _ _ hnormal,(hread _ _).mpr ⟨"0aBc".toList,by decide,?_⟩,?_⟩
  · exact .inr (.inr hkept)
  · have hmarked : ("0x0x1".toList.filter fun c => !isBlank c) = '0' :: 'x' :: "0x1".toList := by
      decide
    refine (houtcome _ _).mpr ⟨"0x1".toList,hmarked ▸ .lower _,?_⟩
    have hsplit : "0x1".toList = ['0'] ++ 'x' :: ['1'] := by decide
    have hfront : ['0'] ⊆ digitChars := by decide
    exact .stray hsplit hfront (by decide)

end DeployCheck.Text.Hex
