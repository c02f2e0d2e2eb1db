import DeployCheck.Proofs.Bytecode.Evaluation
import DeployCheck.Proofs.Bytecode.Trailers
import DeployCheck.Proofs.Text.HexReading

/-! What has no part in a comparison. It looks at the code and the literal of each side, and these
come from the bytes in front of the trailer alone. How much context is shown matters to the listing
of differences only, and blanks around the codes matter to nothing. -/
namespace DeployCheck.Bytecode

open Text

/-- A comparison is one of codes and literals. -/
theorem compareTrimmed_congr (refs : Immutables) (context : Nat) {t t' u u' : Trimmed}
    (htcode : t.code = t'.code) (htliteral : t.literal = t'.literal)
    (hucode : u.code = u'.code) (huliteral : u.literal = u'.literal) :
    compareTrimmed refs context t u = compareTrimmed refs context t' u' := by
  simp only [compareTrimmed, Trimmed.literalText, htcode, htliteral, hucode, huliteral]

/-- The parts of bytes that any trailer may follow. -/
def untrailed (bytes : List UInt8) : Trimmed := ⟨(splitLiteral bytes).1,(splitLiteral bytes).2,[]⟩

/-- The bytes in front of two trailers have one comparison, whatever the trailers are and however
the codes are written. -/
theorem exists_comparison_of_trailers (context : Nat) (refs : Immutables) (p q : List UInt8) :
    ∃ c, ∀ m n, IsTrailer m → IsTrailer n → ∀ actual expected,
      Hex.read actual = .ok (p ++ m) → Hex.read expected = .ok (q ++ n) →
      evaluate context refs actual expected = .ok c := by
  obtain ⟨diff,hc,-⟩ := exists_compareTrimmed refs context (untrailed p) (untrailed q)
  refine ⟨comparisonOf refs (untrailed p) (untrailed q) diff,?_⟩
  intro m n hm hn actual expected hp hq
  rw [evaluate_of_read context refs hp hq, trim_append_of_isTrailer p hm,
    trim_append_of_isTrailer q hn, ← hc]
  exact compareTrimmed_congr refs context rfl rfl rfl rfl

/-- Other trailers behind the same bytes give the same comparison, its listing included. -/
theorem evaluate_ignores_trailers (context : Nat) (refs : Immutables) (p q : List UInt8)
    {m₁ m₂ n₁ n₂ : List UInt8} (hm₁ : IsTrailer m₁) (hm₂ : IsTrailer m₂) (hn₁ : IsTrailer n₁)
    (hn₂ : IsTrailer n₂) :
    ∃ c, evaluate context refs (Hex.encode (p ++ m₁)) (Hex.encode (q ++ n₁)) = .ok c ∧
      evaluate context refs (Hex.encode (p ++ m₂)) (Hex.encode (q ++ n₂)) = .ok c := by
  obtain ⟨c,hc⟩ := exists_comparison_of_trailers context refs p q
  exact ⟨c,hc m₁ n₁ hm₁ hn₁ _ _ (Hex.read_encode _) (Hex.read_encode _),
    hc m₂ n₂ hm₂ hn₂ _ _ (Hex.read_encode _) (Hex.read_encode _)⟩

/-- Trailers with a guard, a text and a push in them. -/
theorem evaluate_ignores_trailers_guards :
    IsTrailer [0,0] ∧ IsTrailer [0x5b,0x50,0x56,0xfe,0x61,0,5] ∧ IsTrailer [0x7f,0,1] ∧
      ∃ c, evaluate 3 [] (Hex.encode ([0x60,1,0x5b,0x50,0x56,0xfe,0x61] ++ [0,0]))
          (Hex.encode ([0x60,2,0x7f] ++ [0x5b,0x50,0x56,0xfe,0x61,0,5])) = .ok c ∧
        evaluate 3 [] (Hex.encode ([0x60,1,0x5b,0x50,0x56,0xfe,0x61] ++
            [0x5b,0x50,0x56,0xfe,0x61,0,5]))
          (Hex.encode ([0x60,2,0x7f] ++ [0x7f,0,1])) = .ok c := by
  have hempty : IsTrailer [0,0] := by decide
  have hguard : IsTrailer [0x5b,0x50,0x56,0xfe,0x61,0,5] := by decide
  have hpush : IsTrailer [0x7f,0,1] := by decide
  exact ⟨hempty,hguard,hpush,evaluate_ignores_trailers 3 [] _ _ hempty hguard hguard hpush⟩

/-! ## Context and blanks -/

/-- Two results are the same but for the listing of differences. -/
inductive AgreeButListing : Except CompareError Comparison → Except CompareError Comparison → Prop
  | error (e : CompareError) : AgreeButListing (.error e) (.error e)
  | ok (c : Comparison) (diff : Option (List Row)) :
    AgreeButListing (.ok c) (.ok { c with diff := diff })

/-- Codes are compared the same way whatever context is shown. -/
theorem agreeButListing_evaluate (k₁ k₂ : Nat) (refs : Immutables) (actual expected : String) :
    AgreeButListing (evaluate k₁ refs actual expected) (evaluate k₂ refs actual expected) := by
  rcases unreadable_or_normal actual expected with ⟨cause,hcause⟩ | ⟨⟨ds,ha⟩,es,he⟩
  · rw [evaluate_of_unreadable k₁ refs hcause, evaluate_of_unreadable k₂ refs hcause]
    exact .error _
  · obtain ⟨p,hp,-⟩ := Hex.exists_read_of_normalize ha
    obtain ⟨q,hq,-⟩ := Hex.exists_read_of_normalize he
    obtain ⟨diff₁,h₁⟩ := exists_evaluate k₁ refs hp hq
    obtain ⟨diff₂,h₂⟩ := exists_evaluate k₂ refs hp hq
    rw [h₁, h₂]
    exact .ok (comparisonOf refs (trim p) (trim q) diff₁) diff₂

/-- What a comparison amounts to does not depend on its listing. -/
lemma AgreeButListing.result_eq {x y : Except CompareError Comparison} (h : AgreeButListing x y) :
    x >>= Comparison.result = y >>= Comparison.result := by
  cases h with
  | error e => rfl
  | ok c diff => rfl

theorem compare_eq_result (k : Nat) (refs : Immutables) (actual expected : String) :
    compare refs actual expected = evaluate k refs actual expected >>= Comparison.result :=
  (agreeButListing_evaluate defaultContext k refs actual expected).result_eq

theorem evaluate_stripped (context : Nat) (refs : Immutables) (actual expected : String) :
    evaluate context refs (stripped actual) (stripped expected) =
      evaluate context refs actual expected := by
  simp only [evaluate, readTrimmed, Hex.read_stripped]

end DeployCheck.Bytecode
