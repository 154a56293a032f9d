import LineHighlight.Proofs.Highlighter.Alignment
import LineHighlight.Proofs.Result.Written
import LineHighlight.Proofs.Service.GivenBack
import LineHighlight.Service.Server

/-! What a tool gives and what its caller reads.
The relevance of a request stops at the largest number of 32 bits, so every result that is given
is one that the typed decoder knows. -/

namespace LineHighlight

/-! ## The relevance of a request -/

theorem Progress.record_relevance_le {p : Progress} (h : p.relevance ≤ maxRelevance)
    (line : String) (outcome : Except Error EngineResult) :
    (p.record line outcome).relevance ≤ maxRelevance := by
  rw [p.record_relevance line outcome h]
  exact Nat.min_le_left _ _

namespace Segments

variable {W C E : Type} {s : Segments W C E} {limit deadline : Option Nat} {mode : Mode}

theorem runLines_relevance_le {lines : List String} {p q : Progress} {σ : System W E}
    (h : (s.runLines limit deadline mode lines p σ).value = .finished q)
    (hp : p.relevance ≤ Progress.maxRelevance) : q.relevance ≤ Progress.maxRelevance := by
  induction lines generalizing p σ with
  | nil =>
      obtain rfl := RequestRun.finished.inj h
      exact hp
  | cons line lines ih =>
      rcases runLines_cons_finished h with ⟨-, hrest⟩ | ⟨outcome, -, -, hrest⟩
      · exact ih hrest hp
      · exact ih hrest (Progress.record_relevance_le hp line outcome)

theorem request_relevance_le {text : String} {result : HighlightResult} {σ : System W E}
    (h : (s.request limit deadline text mode σ).value = .finished result) :
    result.relevance ≤ Progress.maxRelevance := by
  obtain ⟨q, hq, rfl⟩ := request_value_eq_finished_iff.mp h
  exact runLines_relevance_le hq (Nat.zero_le _)

end Segments

namespace Service

variable {W C E : Type}

theorem highlightText_relevance_le (s : Service W C E) (text : String) (mode : Mode)
    (σ : ServiceState W E) :
    (s.highlightText text mode σ).value.relevance ≤ Progress.maxRelevance := by
  rcases s.lost_or_finished text mode σ with hlost | ⟨τ, deadline, result, -, hrun, hresult⟩
  · rw [hlost.highlightText_value]
    exact Nat.zero_le _
  · rw [hresult]
    exact Segments.request_relevance_le hrun

theorem highlightTool_value (s : Service W C E) (params : HighlightParams)
    (σ : ServiceState W E) :
    (s.highlightTool params σ).value =
      (s.highlightText params.text params.mode σ).value.toJson.pretty := rfl

end Service

/-! ## Reading a result -/

namespace HighlightResult

/-- The forms from which a result is decoded: its text, its fields in any order with others of
any names between them, and the list of its fields. -/
structure RoundTripSpec (r : HighlightResult) : Prop where
  text : Json.read r.toJson.pretty = .ok r.toJson
  decoded : ofJson r.toJson = .ok r
  named : ∀ fields extra : List (String × Json), fields.Perm (r.written ++ extra) →
    (∀ f ∈ extra, f.1 ∉ ["value", "illegal", "language", "relevance"]) →
    ofJson (.object fields) = .ok r
  positional : ofJson (.array [.string r.value, .boolean r.illegal, .string r.language,
    .nat r.relevance]) = .ok r

theorem roundTripSpec_of_lt {r : HighlightResult} (h : r.relevance < EngineResult.relevanceLimit) :
    RoundTripSpec r where
  text := read_pretty_toJson h
  decoded := ofJson_toJson h
  named _ _ hperm hextra := (among_of_perm hperm hextra).ofJson_eq h
  positional := ofJson_array h

/-- A result whose relevance has 32 bits is read back from what is written of it, and a service
gives no other results. -/
theorem roundTrip_spec :
    (∀ r : HighlightResult, r.relevance < 2 ^ 32 → RoundTripSpec r) ∧
    ∀ {W C E : Type} (s : Service W C E) (params : HighlightParams) (σ : ServiceState W E),
      ∃ r, (s.highlightText params.text params.mode σ).value = r ∧
        (s.highlightTool params σ).value = r.toJson.pretty ∧ RoundTripSpec r := by
  refine ⟨fun r h => roundTripSpec_of_lt h, ?_⟩
  intro W C E s params σ
  have hrelevance := s.highlightText_relevance_le params.text params.mode σ
  refine ⟨_, rfl, s.highlightTool_value params σ, roundTripSpec_of_lt ?_⟩
  exact Nat.lt_succ_of_le hrelevance

/-- Characters of every kind, the largest relevance, and the fields in reverse with one more in
front. -/
theorem roundTrip_spec_reversed :
    let r : HighlightResult := ⟨"a\"\\\n\x01😀", true, "mixed", 4294967295⟩
    r.toJson.pretty = "\x7b\n  \"value\": \"a\\\"\\\\\\n\\u0001😀\",\n  \"illegal\": true,\n" ++
        "  \"language\": \"mixed\",\n  \"relevance\": 4294967295\n\x7d" ∧
      Json.read r.toJson.pretty = .ok r.toJson ∧
      ofJson (.object [("x", .array [.null]), ("relevance", .nat 4294967295),
        ("language", .string "mixed"), ("illegal", .boolean true),
        ("value", .string "a\"\\\n\x01😀")]) = .ok r := by
  intro r
  have hspec := roundTrip_spec.1 r (by decide)
  refine ⟨by decide +kernel, hspec.text, ?_⟩
  have hperm := List.reverse_perm (r.written ++ [("x", .array [.null])])
  exact hspec.named _ [("x", .array [.null])] hperm (by simp)

end HighlightResult

end LineHighlight
