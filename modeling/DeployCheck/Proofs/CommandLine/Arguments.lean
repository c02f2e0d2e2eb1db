import DeployCheck.CommandLine.Command
import DeployCheck.Proofs.Text.Numerals
import Mathlib.Data.List.TakeWhile

/-! Arguments of a command as they are read one after the other: by position, as a switch, or as an
option with its value behind an equals sign. -/
namespace DeployCheck.CommandLine

namespace Reading

variable {g : Grammar} {r : Reading}

/-- What does not begin with a dash counts by its position. -/
lemma step_of_undashed {arg : String} (hpending : r.pending = none)
    (h : ∀ rest, arg ≠ "-" ++ rest) : step g r arg = r.place g arg := by
  have hdash : ∀ cs, arg.toList ≠ '-' :: cs := by
    intro cs hcs
    exact h (String.ofList cs) (String.toList_inj.mp (by simp [hcs]))
  unfold step
  split
  · rfl
  · split <;> simp_all

lemma splitValue_append {name : List Char} (hname : '=' ∉ name) (value : List Char) :
    splitValue (name ++ '=' :: value) = (String.ofList name, some (String.ofList value)) := by
  have hkept : ∀ c ∈ name, (c != '=') = true := by
    intro c hc
    simpa using fun heq : c = '=' => hname (heq ▸ hc)
  have htake : (name ++ '=' :: value).takeWhile (· != '=') = name := by
    rw [List.takeWhile_append_of_pos hkept]
    simp
  simp [splitValue, htake]

lemma splitValue_of_not_mem {name : List Char} (hname : '=' ∉ name) :
    splitValue name = (String.ofList name, none) := by
  have hkept : ∀ c ∈ name, (c != '=') = true := by
    intro c hc
    simpa using fun heq : c = '=' => hname (heq ▸ hc)
  simp [splitValue, List.takeWhile_eq_self_iff.mpr hkept]

lemma step_of_dashes {arg : String} {c : Char} {cs : List Char} (hliteral : r.literal = false)
    (hpending : r.pending = none) (harg : arg.toList = '-' :: '-' :: c :: cs) :
    step g r arg = r.long g (splitValue (c :: cs)).1 (splitValue (c :: cs)).2 := by
  unfold step
  rw [hliteral, harg, hpending]
  rfl

/-- An option with its value attached. -/
lemma step_setting {name : String} (hliteral : r.literal = false) (hpending : r.pending = none)
    (hname : '=' ∉ name.toList) (value : String) :
    step g r ("--" ++ name ++ "=" ++ value) = r.long g name (some value) := by
  obtain ⟨c,cs,hcs⟩ : ∃ c cs, name.toList ++ '=' :: value.toList = c :: cs := by
    cases name.toList <;> exact ⟨_,_,rfl⟩
  have harg : ("--" ++ name ++ "=" ++ value).toList = '-' :: '-' :: c :: cs := by
    simp [← hcs]
  rw [step_of_dashes hliteral hpending harg, ← hcs, splitValue_append hname, String.ofList_toList,
    String.ofList_toList]

lemma step_switch {name : String} (hliteral : r.literal = false) (hpending : r.pending = none)
    (hname : '=' ∉ name.toList) (hempty : name.toList ≠ []) :
    step g r ("--" ++ name) = r.long g name none := by
  obtain ⟨c,cs,hcs⟩ := List.exists_cons_of_ne_nil hempty
  have harg : ("--" ++ name).toList = '-' :: '-' :: c :: cs := by simp [hcs]
  rw [step_of_dashes hliteral hpending harg, ← hcs, splitValue_of_not_mem hname,
    String.ofList_toList]

lemma give_new {name value : String} (hnew : r.values.has name = false) :
    r.give name value true =
      .ok { r with values := r.values ++ [(name,value)], pending := none } := by
  simp [give, hnew]

end Reading

/-! ## Comparisons -/

/-- The words that give the arguments of a comparison, behind the command's name. -/
def CompareArguments.words (args : CompareArguments) : List String :=
  [args.actual,args.expected] ++ (["--context=" ++ toString args.context] ++
    ((if args.noColor then ["--no-color"] else []) ++
      args.immutables.toList.map ("--immutables=" ++ ·)))

/-- The values that the words of a comparison give. -/
def CompareArguments.values (args : CompareArguments) : Values :=
  [("actual",args.actual), ("expected",args.expected), ("context",toString args.context)] ++
    (if args.noColor then [("no-color","")] else []) ++
    args.immutables.toList.map fun slots => ("immutables",slots)

lemma wordOfDecimal_toString {n : Nat} (h : n < Text.wordBound) :
    Text.wordOfDecimal (toString n) = some n := by
  have hdigits : (toString n).toList = Nat.toDigits 10 n := by simp
  rw [Text.wordOfDecimal, hdigits]
  exact Text.natBelow_toDigits h

section Comparison

variable {vs : Values}

/-- The reading of a comparison when both codes are placed. -/
def Reading.placedBoth (vs : Values) : Reading := { values := vs, placed := 2 }

lemma step_codes {actual expected : String} (hactual : ∀ rest, actual ≠ "-" ++ rest)
    (hexpected : ∀ rest, expected ≠ "-" ++ rest) :
    [actual,expected].foldlM (Reading.step compareGrammar) {} =
      .ok (.placedBoth [("actual",actual), ("expected",expected)]) := by
  rw [List.foldlM_cons, Reading.step_of_undashed rfl hactual]
  change Reading.step compareGrammar
    { values := [("actual",actual)], placed := 1 } expected >>= _ = _
  rw [Reading.step_of_undashed rfl hexpected]
  rfl

lemma step_context (hnew : vs.has "context" = false) {context : Nat}
    (hcontext : context < Text.wordBound) :
    Reading.step compareGrammar (.placedBoth vs) ("--context=" ++ toString context) =
      .ok (.placedBoth (vs ++ [("context",toString context)])) := by
  have hword : (Text.wordOfDecimal (toString context)).isSome = true := by
    rw [wordOfDecimal_toString hcontext, Option.isSome_some]
  change Reading.step compareGrammar _ ("--" ++ "context" ++ "=" ++ toString context) = _
  rw [Reading.step_setting rfl rfl (by decide)]
  change Reading.give _ "context" _ (Text.wordOfDecimal (toString context)).isSome = _
  rw [hword]
  exact Reading.give_new hnew

lemma step_color (hnew : vs.has "no-color" = false) (noColor : Bool) :
    (if noColor then ["--no-color"] else []).foldlM (Reading.step compareGrammar)
      (.placedBoth vs) =
      .ok (.placedBoth (vs ++ if noColor then [("no-color","")] else [])) := by
  cases noColor with
  | false => simp [pure, Except.pure]
  | true =>
    change Reading.step compareGrammar _ ("--" ++ "no-color") >>= pure = _
    rw [Reading.step_switch rfl rfl (by decide) (by decide), bind_pure]
    exact Reading.give_new hnew

lemma step_slots (hnew : vs.has "immutables" = false) (slots : Option String) :
    (slots.toList.map ("--immutables=" ++ ·)).foldlM (Reading.step compareGrammar)
      (.placedBoth vs) =
      .ok (.placedBoth (vs ++ slots.toList.map fun slots => ("immutables",slots))) := by
  cases slots with
  | none => simp [pure, Except.pure]
  | some slots =>
    change Reading.step compareGrammar _ ("--" ++ "immutables" ++ "=" ++ slots) >>= pure = _
    rw [Reading.step_setting rfl rfl (by decide), bind_pure]
    exact Reading.give_new hnew

end Comparison

namespace CompareArguments

variable {args : CompareArguments}

/-- Arguments that words can give: no code begins with a dash, and the context is a word of 64
bits. -/
structure Plain (args : CompareArguments) : Prop where
  actual : ∀ rest, args.actual ≠ "-" ++ rest
  expected : ∀ rest, args.expected ≠ "-" ++ rest
  context : args.context < Text.wordBound

/-- The arguments are those that their values give. -/
lemma ofValues_values (h : args.Plain) : ofValues args.values = args := by
  have hread : ((some (toString args.context)).bind Text.wordOfDecimal).getD
      Bytecode.defaultContext = args.context := by
    rw [Option.bind_some, wordOfDecimal_toString h.context, Option.getD_some]
  obtain ⟨actual,expected,slots,context,noColor⟩ := args
  cases noColor <;> cases slots <;>
    exact congrArg (fun k => CompareArguments.mk _ _ _ k _) hread

lemma foldlM_words (h : args.Plain) : args.words.foldlM (Reading.step compareGrammar) {} =
    .ok (.placedBoth args.values) := by
  have hslots : ∀ noColor : Bool, Values.has ([("actual",args.actual),
      ("expected",args.expected)] ++ [("context",toString args.context)] ++
      if noColor then [("no-color","")] else []) "immutables" = false := by
    intro noColor
    cases noColor <;> rfl
  rw [words, List.foldlM_append, step_codes h.actual h.expected]
  change List.foldlM _ _ _ = _
  rw [List.foldlM_append, List.foldlM_cons, step_context rfl h.context]
  change List.foldlM _ _ _ = _
  rw [List.foldlM_append, step_color rfl]
  exact step_slots (hslots args.noColor) args.immutables

/-- Comparisons with any context, in colour or not, and with or without slots are read from the
words that give them. -/
theorem parse_words (h : args.Plain) :
    Command.parse ("compare" :: args.words) = .ok (.compare args) := by
  have hvalues : compareGrammar.parse args.words = .ok args.values := by
    rw [Grammar.parse, foldlM_words h]
    rfl
  change (compareGrammar.parse args.words >>= fun vs => pure (Command.compare (ofValues vs))) = _
  rw [hvalues]
  exact congrArg (fun read => Except.ok (Command.compare read)) (ofValues_values h)

end CompareArguments

end DeployCheck.CommandLine
