import DeployCheck.Proofs.LineDiff.Hunks
import DeployCheck.Proofs.LineDiff.Printed
import Mathlib.Data.List.Forall2

/-! Replaying a diff. The blocks printed for hunks, applied where their headers say, turn the old
lines into the new ones, but for newlines that printing adds. -/
namespace DeployCheck.LineDiff

/-- Replays a diff on the old lines behind position `b`, with `a` new lines before them; `m` and `n`
lines of the current block are to come on either side. A header has to continue both texts, a block
has to have the lengths that its header says, and what it removes or keeps has to be there. -/
def replay : Nat → Nat → Nat → Nat → List String → List Line → Option (List String)
  | _, _, 0, 0, old, [] => some old
  | b, a, 0, 0, old, .header b' m a' n :: ls =>
    let gap := b' - (b + 1)
    if b < b' ∧ a' = a + gap + 1 ∧ gap ≤ old.length then
      (replay (b + gap) (a + gap) m n (old.drop gap) ls).map (old.take gap ++ ·)
    else none
  | b, a, m + 1, n + 1, line :: old, .context line' :: ls =>
    if ended line = line' then (replay (b + 1) (a + 1) m n old ls).map (line :: ·) else none
  | b, a, m + 1, n, line :: old, .removed line' :: ls =>
    if ended line = line' then replay (b + 1) a m n old ls else none
  | b, a, m, n + 1, old, .added line :: ls => (replay b (a + 1) m n old ls).map (line :: ·)
  | _, _, _, _, _, _ => none

namespace Line

def isHeader : Line → Bool
  | .header .. => true
  | _ => false

/-- The line of the old text that a line stands for. -/
def old? : Line → Option String
  | .context line | .removed line => some line
  | _ => none

/-- The line that replaying a printed line gives. -/
def new? : Line → Option String
  | .context line => some line
  | .added line => some (ended line)
  | _ => none

end Line

/-- The lines of a block on the old side. -/
def oldSide (ls : List Line) : List String := ls.filterMap Line.old?

/-- The lines that replaying a block gives. -/
def newSide (ls : List Line) : List String := ls.filterMap Line.new?

section Sides

@[simp] lemma oldSide_append (ls ms : List Line) : oldSide (ls ++ ms) = oldSide ls ++ oldSide ms :=
  List.filterMap_append

@[simp] lemma newSide_append (ls ms : List Line) : newSide (ls ++ ms) = newSide ls ++ newSide ms :=
  List.filterMap_append

@[simp] lemma oldSide_context (xs : List String) : oldSide (xs.map .context) = xs := by
  simp [oldSide, List.filterMap_map, Function.comp_def, Line.old?]

@[simp] lemma newSide_context (xs : List String) : newSide (xs.map .context) = xs := by
  simp [newSide, List.filterMap_map, Function.comp_def, Line.new?]

@[simp] lemma oldSide_removed (xs : List String) : oldSide (xs.map .removed) = xs := by
  simp [oldSide, List.filterMap_map, Function.comp_def, Line.old?]

@[simp] lemma newSide_removed (xs : List String) : newSide (xs.map .removed) = [] := by
  simp [newSide, List.filterMap_map, Function.comp_def, Line.new?]

@[simp] lemma oldSide_added (xs : List String) : oldSide (xs.map .added) = [] := by
  simp [oldSide, List.filterMap_map, Function.comp_def, Line.old?]

@[simp] lemma newSide_added (xs : List String) : newSide (xs.map .added) = xs.map ended := by
  simp [newSide, List.filterMap_map, Function.comp_def, Line.new?]

end Sides

/-- Lines of a block replace what stands on their old side. -/
theorem replay_body {body : List Line} (hbody : ∀ l ∈ body, l.isHeader = false) (b a m n : Nat)
    (old : List String) (ls : List Line) :
    replay b a ((oldSide body).length + m) ((newSide body).length + n) (oldSide body ++ old)
        (body.map Line.closed ++ ls) =
      (replay (b + (oldSide body).length) (a + (newSide body).length) m n old ls).map
        (newSide body ++ ·) := by
  induction body generalizing b a with
  | nil => simp [oldSide, newSide]
  | cons l body ih =>
    rw [List.forall_mem_cons] at hbody
    obtain ⟨hl,hbody⟩ := hbody
    have hcount (xs : List String) (k : Nat) : xs.length + 1 + k = (xs.length + k) + 1 := by omega
    have hposition (xs : List String) (k : Nat) : k + 1 + xs.length = k + (xs.length + 1) := by
      omega
    cases l with
    | header => simp [Line.isHeader] at hl
    | context line =>
      change replay b a ((oldSide body).length + 1 + m) ((newSide body).length + 1 + n)
        (line :: (oldSide body ++ old)) (.context (ended line) :: (body.map Line.closed ++ ls)) = _
      rw [hcount, hcount, replay, if_pos rfl, ih hbody, hposition, hposition, Option.map_map]
      rfl
    | removed line =>
      change replay b a ((oldSide body).length + 1 + m) ((newSide body).length + n)
        (line :: (oldSide body ++ old)) (.removed (ended line) :: (body.map Line.closed ++ ls)) = _
      rw [hcount, replay, if_pos rfl, ih hbody, hposition]
      rfl
    | added line =>
      change replay b a ((oldSide body).length + m) ((newSide body).length + 1 + n)
        (oldSide body ++ old) (.added (ended line) :: (body.map Line.closed ++ ls)) = _
      rw [hcount, replay, ih hbody, hposition, Option.map_map]
      rfl

/-! ## Newlines that printing adds -/

/-- A line that agrees with another but for a newline that printing adds. -/
def Agrees (line original : String) : Prop := line = original ∨ line = ended original

lemma agrees_refl (xs : List String) : List.Forall₂ Agrees xs xs :=
  List.forall₂_same.mpr fun _ _ => .inl rfl

lemma agrees_ended (xs : List String) : List.Forall₂ Agrees (xs.map ended) xs :=
  List.forall₂_map_left_iff.mpr (List.forall₂_same.mpr fun _ _ => .inr rfl)

lemma agrees_hunk (kept added : List String) {lines new : List String}
    (h : List.Forall₂ Agrees lines new) :
    List.Forall₂ Agrees (kept ++ (added.map ended ++ lines)) (kept ++ (added ++ new)) :=
  List.rel_append (agrees_refl kept) (List.rel_append (agrees_ended added) h)

/-- Of texts that are cut into lines, only the last may lack its newline. -/
theorem eq_or_eq_map_ended {lines original : List String} (hcut : Text.Cut original)
    (h : List.Forall₂ Agrees lines original) :
    lines = original ∨ lines = original.map ended := by
  induction hcut generalizing lines with
  | nil =>
    cases h
    exact .inl rfl
  | last hopen =>
    cases h with
    | cons hhead htail =>
      cases htail
      rcases hhead with rfl | rfl <;> simp
  | cons hended _ ih =>
    cases h with
    | cons hhead htail =>
      have hline := ended_of_isEnded hended
      obtain rfl : _ = _ := by simpa [Agrees, hline] using hhead
      rcases ih htail with hrest | hrest <;> simp [hrest, hline]

/-! ## Blocks -/

lemma slice_eq_of_drop {old kept rest : List String} {start stop : Nat}
    (h : old.drop start = kept ++ rest) (hstop : stop = start + kept.length) :
    slice old start stop = kept.map .context := by
  rw [slice, List.drop_take, h, hstop, Nat.add_sub_cancel_left, List.take_left]

namespace Block

/-- A block covers the old lines from its start to its position, and its lengths are those of its
lines. -/
structure Covers (old : List String) (b : Block) : Prop where
  body : ∀ l ∈ b.lines, l.isHeader = false
  inside : b.position ≤ old.length
  position : b.position = b.beforeStart + b.beforeLength
  before : old.drop b.beforeStart = oldSide b.lines ++ old.drop b.position
  beforeLength : b.beforeLength = (oldSide b.lines).length
  afterLength : b.afterLength = (newSide b.lines).length

variable {old : List String} {b : Block} {h : Hunk} {kept rest : List String}

lemma append_eq (hold : old.drop b.position = kept ++ rest)
    (hstart : h.beforeStart = b.position + kept.length) :
    b.append old h =
      { b with
        position := h.stop
        beforeLength := b.beforeLength + kept.length + h.removed.length
        afterLength := b.afterLength + kept.length + h.added.length
        lines := b.lines ++ kept.map .context ++ h.removed.map .removed ++ h.added.map .added } := by
  unfold append
  rw [slice_eq_of_drop hold hstart, hstart, Nat.add_sub_cancel_left]

lemma drop_stop (hold : old.drop b.position = kept ++ (h.removed ++ rest))
    (hstart : h.beforeStart = b.position + kept.length) : old.drop h.stop = rest := by
  have hstop : h.stop = b.position + (kept ++ h.removed).length := by
    rw [Hunk.stop, hstart, List.length_append]
    omega
  rw [hstop, ← List.drop_drop, hold, ← List.append_assoc, List.drop_left]

theorem Covers.append (hb : b.Covers old) (hold : old.drop b.position = kept ++ (h.removed ++ rest))
    (hstart : h.beforeStart = b.position + kept.length) : (b.append old h).Covers old := by
  have hstop : h.stop = b.position + kept.length + h.removed.length := by rw [Hunk.stop, hstart]
  rw [append_eq hold hstart]
  constructor
  · intro l hl
    have hnew : l ∈ b.lines ∨ (∃ x ∈ kept, .context x = l) ∨ (∃ x ∈ h.removed, .removed x = l) ∨
        ∃ x ∈ h.added, .added x = l := by simpa [or_assoc] using hl
    rcases hnew with hl | ⟨x,-,rfl⟩ | ⟨x,-,rfl⟩ | ⟨x,-,rfl⟩
    · exact hb.body l hl
    all_goals rfl
  · have := congrArg List.length hold
    simp only [List.length_drop, List.length_append] at this
    have := hb.inside
    dsimp only
    omega
  · have := hb.position
    dsimp only
    omega
  · dsimp only
    rw [hb.before, hold, drop_stop hold hstart]
    simp
  · simp [hb.beforeLength, Nat.add_assoc]
  · simp [hb.afterLength, Nat.add_assoc]

/-- The lines behind a block's position that its end shows. -/
def trail (context : Nat) (old : List String) (b : Block) : List String :=
  (old.drop b.position).take context

lemma finish_eq (context : Nat) (hb : b.Covers old) (hne : b.lines ≠ []) :
    b.finish context old =
      .header (b.beforeStart + 1) (b.beforeLength + (b.trail context old).length)
        (b.afterStart + 1) (b.afterLength + (b.trail context old).length) ::
          (b.lines ++ (b.trail context old).map .context) := by
  have hinside := hb.inside
  have hlength : (b.trail context old).length =
      min (b.position + context) old.length - b.position := by
    simp only [trail, List.length_take, List.length_drop]
    omega
  have hslice : slice old b.position (min (b.position + context) old.length) =
      (b.trail context old).map .context :=
    slice_eq_of_drop (List.take_append_drop _ _).symm (by omega)
  simp [finish, hne, hlength, hslice]

/-- A finished block, replayed after a gap, carries on behind the lines that it shows. -/
theorem replay_finish (context : Nat) {p a gap : Nat} (hb : b.Covers old) (hne : b.lines ≠ [])
    (hbefore : b.beforeStart = p + gap) (hafter : b.afterStart = a + gap) (ls : List Line) :
    replay p a 0 0 (old.drop p) ((b.finish context old).map Line.closed ++ ls) =
      (replay (b.position + (b.trail context old).length)
        (b.afterStart + b.afterLength + (b.trail context old).length) 0 0
        ((old.drop b.position).drop context) ls).map
          ((old.drop p).take gap ++ (newSide b.lines ++ b.trail context old) ++ ·) := by
  -- the block's lines with the trail behind them are its body
  let body := b.lines ++ (b.trail context old).map .context
  have hbody : ∀ l ∈ body, l.isHeader = false := by
    intro l hl
    rcases List.mem_append.mp hl with hl | hl
    · exact hb.body l hl
    · obtain ⟨x,-,rfl⟩ := List.mem_map.mp hl
      rfl
  have hold : oldSide body = oldSide b.lines ++ b.trail context old := by simp [body]
  have hnew : newSide body = newSide b.lines ++ b.trail context old := by simp [body]
  have hrest : (old.drop p).drop gap = oldSide body ++ (old.drop b.position).drop context := by
    rw [List.drop_drop, ← hbefore, hb.before, hold, List.append_assoc, trail, List.take_append_drop]
  have hgap : b.beforeStart + 1 - (p + 1) = gap := by omega
  have hlength : gap ≤ (old.drop p).length := by
    have := hb.inside
    have := hb.position
    rw [List.length_drop]
    omega
  have hbeforeLength : b.beforeLength + (b.trail context old).length =
      (oldSide body).length + 0 := by simp [hold, hb.beforeLength]
  have hafterLength : b.afterLength + (b.trail context old).length =
      (newSide body).length + 0 := by simp [hnew, hb.afterLength]
  rw [finish_eq context hb hne, List.map_cons, List.cons_append, Line.closed, replay]
  simp only [hgap]
  rw [if_pos ⟨by omega,by omega,hlength⟩, hrest, hbeforeLength, hafterLength, replay_body hbody,
    Option.map_map]
  have hposition : p + gap + (oldSide body).length = b.position + (b.trail context old).length := by
    have := hb.position
    omega
  have hcount : a + gap + (newSide body).length =
      b.afterStart + b.afterLength + (b.trail context old).length := by omega
  rw [hposition, hcount, hnew]
  congr 1
  funext lines
  simp

section Append

variable {hs : List Hunk} {new : List String}

lemma lines_append_ne_nil (hold : old.drop b.position = kept ++ rest)
    (hstart : h.beforeStart = b.position + kept.length) (hchanges : h.removed ≠ [] ∨ h.added ≠ []) :
    (b.append old h).lines ≠ [] := by
  rw [append_eq hold hstart]
  rcases hchanges with hne | hne <;> simp [hne]

lemma newSide_lines_append (hold : old.drop b.position = kept ++ rest)
    (hstart : h.beforeStart = b.position + kept.length) :
    newSide (b.append old h).lines = newSide b.lines ++ (kept ++ h.added.map ended) := by
  rw [append_eq hold hstart]
  simp

/-- Behind a hunk that a block has taken in, the next hunks lead on from the block's new
position. -/
lemma leads_append (hold : old.drop b.position = kept ++ (h.removed ++ rest))
    (hstart : h.beforeStart = b.position + kept.length)
    (hafter : h.afterStart = b.afterStart + b.afterLength + kept.length)
    (hleads : Leads h.stop (h.afterStart + h.added.length) rest new hs) :
    Leads (b.append old h).position ((b.append old h).afterStart + (b.append old h).afterLength)
      (old.drop (b.append old h).position) new hs := by
  have hcount : h.afterStart + h.added.length =
      b.afterStart + (b.afterLength + kept.length + h.added.length) := by omega
  rw [append_eq hold hstart]
  dsimp only
  rwa [drop_stop hold hstart, ← hcount]

end Append

/-! A block of its own starts with the last of the lines in front of its hunk. -/

section Start

variable {context p a : Nat}

lemma covers_start (hinside : h.beforeStart ≤ old.length) : (start context h).Covers old where
  body := by simp [start]
  inside := by simp only [start]; omega
  position := rfl
  before := rfl
  beforeLength := rfl
  afterLength := rfl

lemma beforeStart_le_length (hold : old.drop p = kept ++ rest) (hinside : p ≤ old.length)
    (hstart : h.beforeStart = p + kept.length) : h.beforeStart ≤ old.length := by
  have := congrArg List.length hold
  simp only [List.length_drop, List.length_append] at this
  omega

lemma drop_start (hold : old.drop p = kept ++ rest) (hstart : h.beforeStart = p + kept.length)
    (hcontext : context ≤ kept.length) :
    old.drop (start context h).position = kept.drop (kept.length - context) ++ rest := by
  have hposition : (start context h).position = p + (kept.length - context) := by
    simp only [start]
    omega
  rw [hposition, ← List.drop_drop, hold, List.drop_append_of_le_length (by omega)]

lemma beforeStart_start (hstart : h.beforeStart = p + kept.length)
    (hcontext : context ≤ kept.length) :
    h.beforeStart =
      (start context h).position + (kept.drop (kept.length - context)).length := by
  simp only [start, List.length_drop]
  omega

lemma afterStart_start (hafter : h.afterStart = a + kept.length)
    (hcontext : context ≤ kept.length) :
    h.afterStart = (start context h).afterStart + (start context h).afterLength +
      (kept.drop (kept.length - context)).length := by
  simp only [start, List.length_drop]
  omega

lemma lines_start_append (hold : old.drop p = kept ++ (h.removed ++ rest))
    (hstart : h.beforeStart = p + kept.length) (hcontext : context ≤ kept.length) :
    (old.drop p).take (kept.length - context) ++ newSide ((start context h).append old h).lines =
      kept ++ h.added.map ended := by
  have hempty : newSide (start context h).lines = [] := rfl
  rw [newSide_lines_append (drop_start hold hstart hcontext) (beforeStart_start hstart hcontext),
    hold, List.take_append_of_le_length (Nat.sub_le _ _), hempty, List.nil_append,
    ← List.append_assoc, List.take_append_drop]

end Start

/-- What hunks print behind a block can be replayed: it gives the lines up to the block, those of the
block, and what the hunks make of the rest. -/
def Replays (context : Nat) (old : List String) (hs : List Hunk) : Prop :=
  ∀ ⦃b : Block⦄ ⦃p a gap : Nat⦄ ⦃new : List String⦄, b.Covers old → b.lines ≠ [] →
    b.beforeStart = p + gap → b.afterStart = a + gap →
    Leads b.position (b.afterStart + b.afterLength) (old.drop b.position) new hs →
    ∃ lines, replay p a 0 0 (old.drop p) ((print context old b hs).map Line.closed) =
        some ((old.drop p).take gap ++ (newSide b.lines ++ lines)) ∧
      List.Forall₂ Agrees lines new

/-- The same for a hunk with a block of its own. -/
lemma Replays.start {context p a : Nat} {hs : List Hunk} {new : List String}
    (hreplays : Replays context old hs) (hold : old.drop p = kept ++ (h.removed ++ rest))
    (hinside : p ≤ old.length) (hstart : h.beforeStart = p + kept.length)
    (hafter : h.afterStart = a + kept.length) (hcontext : context ≤ kept.length)
    (hchanges : h.removed ≠ [] ∨ h.added ≠ [])
    (hrest : Leads h.stop (h.afterStart + h.added.length) rest new hs) :
    ∃ lines, replay p a 0 0 (old.drop p)
        ((print context old ((start context h).append old h) hs).map Line.closed) =
          some (kept ++ (h.added.map ended ++ lines)) ∧
      List.Forall₂ Agrees lines new := by
  have hsold := drop_start hold hstart hcontext
  have hsstart := beforeStart_start hstart hcontext
  have hbefore : ((Block.start context h).append old h).beforeStart =
      p + (kept.length - context) := by
    simp only [append, Block.start]
    omega
  have hnew : ((Block.start context h).append old h).afterStart = a + (kept.length - context) := by
    simp only [append, Block.start]
    omega
  obtain ⟨lines,hreplay,hagree⟩ := hreplays
    ((covers_start (beforeStart_le_length hold hinside hstart)).append hsold hsstart)
    (lines_append_ne_nil hsold hsstart hchanges) hbefore hnew
    (leads_append hsold hsstart (afterStart_start hafter hcontext) hrest)
  rw [← List.append_assoc, lines_start_append hold hstart hcontext, List.append_assoc] at hreplay
  exact ⟨lines,hreplay,hagree⟩

/-- Printed hunks can be replayed. -/
theorem replays (context : Nat) (old : List String) (hs : List Hunk) :
    Replays context old hs := by
  induction hs with
  | nil =>
    intro b p a gap new hb hne hbefore hafter hleads
    have hfinish := replay_finish context hb hne hbefore hafter []
    rw [List.append_nil, replay] at hfinish
    refine ⟨old.drop b.position,?_,?_⟩
    · rw [print, hfinish]
      simp [trail, -List.drop_drop]
    · rw [hleads.eq_of_nil]
      exact agrees_refl new
  | cons h hs ih =>
    intro b p a gap new hb hne hbefore hafter hleads
    generalize hold : old.drop b.position = lines at hleads
    cases hleads with
    | @change _ _ rest new _ kept _ hstart hstartAfter hchanges hrest =>
      rw [print]
      split
      · next hfar =>
        have hcontext : context ≤ kept.length := by omega
        have htrail : b.trail context old = kept.take context := by
          rw [trail, hold, List.take_append_of_le_length hcontext]
        -- the kept lines that the block's end does not show lead to the next block
        have hnext : old.drop (b.position + context) = kept.drop context ++ (h.removed ++ rest) := by
          rw [← List.drop_drop, hold, List.drop_append_of_le_length hcontext]
        have hinside : b.position + context ≤ old.length := by
          have := congrArg List.length hold
          simp only [List.length_drop, List.length_append] at this
          omega
        have hlength : (kept.drop context).length = kept.length - context := List.length_drop
        obtain ⟨lines,hreplay,hagree⟩ := ih.start (a := b.afterStart + b.afterLength + context)
          hnext hinside (by omega) (by omega) (by omega) hchanges hrest
        refine ⟨kept ++ (h.added.map ended ++ lines),?_,agrees_hunk kept h.added hagree⟩
        rw [List.map_append, replay_finish context hb hne hbefore hafter, htrail, List.length_take,
          Nat.min_eq_left hcontext, List.drop_drop, hreplay, Option.map_some]
        simp only [List.append_assoc]
        rw [← List.append_assoc (kept.take context), List.take_append_drop]
      · obtain ⟨lines,hreplay,hagree⟩ := ih (hb.append hold hstart)
          (lines_append_ne_nil hold hstart hchanges) hbefore hafter
          (leads_append hold hstart hstartAfter hrest)
        refine ⟨kept ++ (h.added.map ended ++ lines),?_,agrees_hunk kept h.added hagree⟩
        rw [hreplay, newSide_lines_append hold hstart]
        simp

end Block

end DeployCheck.LineDiff
