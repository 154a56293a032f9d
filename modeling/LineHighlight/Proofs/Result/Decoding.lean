import LineHighlight.Proofs.Json.Records
import LineHighlight.Proofs.Number.Integers
import LineHighlight.Result

/-! The two decoders of an engine's answer.
One wants each field in its type, the other coerces what it finds. They look for the same names,
so what the first one decodes the second one decodes as well, and only a relevance from `2 ^ 31`
on comes out differently. -/

namespace LineHighlight

/-! ### Relevance of 32 bits -/

theorem Binary64.toInt32_eq_bmod {x : Binary64} {d : Int} (h : x.truncate? = some d) :
    x.toInt32 = d.bmod (2 ^ 32) := by
  rw [toInt32, h]
  rfl

/-- As signed numbers, the upper half of the 32-bit numbers are negative. -/
theorem Binary64.toNat_toInt32 {x : Binary64} {d : Int} (h : x.truncate? = some d) :
    x.toInt32.toNat = if d % 2 ^ 32 < 2 ^ 31 then (d % 2 ^ 32).toNat else 0 := by
  rw [toInt32_eq_bmod h, Int.bmod_def]
  split <;> split <;> omega

theorem Json.toRelevance_nat {n : Nat} (h : n < 2 ^ 32) :
    (nat n).toRelevance = if n < 2 ^ 31 then n else 0 := by
  have hvalue : (Binary64.ofInt n).truncate? = some (n : Int) :=
    Binary64.truncate?_ofInt (by omega)
  have hrelevance : (nat n).toRelevance = (Binary64.ofInt n).toInt32.toNat := rfl
  rw [hrelevance, Binary64.toNat_toInt32 hvalue]
  split <;> split <;> omega

theorem Json.toRelevance_lt (v : Json) : v.toRelevance < 2 ^ 31 := by
  have hbound := v.relevanceNumber.toInt32_bounds.2
  rw [toRelevance]
  omega

namespace EngineResult

variable {r : EngineResult} {fields : List (String × Json)}

/-! ### The decoder that coerces -/

/-- The fields that an answer is coerced from. -/
structure CoercedFrom (r : EngineResult) (fields : List (String × Json)) : Prop where
  value : Json.lookup "value" fields = some (.string r.value)
  language : Json.lookup "language" fields = some (.string r.language)
  illegal : r.illegal = ((Json.lookup "illegal" fields).map Json.isTruthy).getD false
  relevance : r.relevance = ((Json.lookup "relevance" fields).map Json.toRelevance).getD 0

theorem requiredText_eq_ok_iff {name s : String} :
    requiredText fields name = .ok s ↔ Json.lookup name fields = some (.string s) := by
  rw [requiredText]
  split <;> simp_all

theorem ofAnswer_object_eq_ok_iff :
    ofAnswer (.object fields) = .ok r ↔ r.CoercedFrom fields := by
  constructor
  · intro h
    obtain ⟨value, hvalue, h⟩ := bind_eq_ok_iff.mp h
    obtain ⟨language, hlanguage, h⟩ := bind_eq_ok_iff.mp h
    obtain rfl := Except.ok.inj h
    exact ⟨requiredText_eq_ok_iff.mp hvalue, requiredText_eq_ok_iff.mp hlanguage, rfl, rfl⟩
  · rintro ⟨hvalue, hlanguage, hillegal, hrelevance⟩
    refine bind_eq_ok_iff.mpr ⟨r.value, requiredText_eq_ok_iff.mpr hvalue, ?_⟩
    refine bind_eq_ok_iff.mpr ⟨r.language, requiredText_eq_ok_iff.mpr hlanguage, ?_⟩
    rw [← hillegal, ← hrelevance]

theorem ofAnswer_eq_ok_iff {raw : Json} :
    ofAnswer raw = .ok r ↔ ∃ fields, raw = .object fields ∧ r.CoercedFrom fields := by
  cases raw with
  | object fields => simp [ofAnswer_object_eq_ok_iff]
  | _ => simp [ofAnswer]

/-- No other field makes an answer unusable. -/
theorem exists_ofAnswer_eq_ok {value language : String}
    (hvalue : Json.lookup "value" fields = some (.string value))
    (hlanguage : Json.lookup "language" fields = some (.string language)) :
    ∃ r, ofAnswer (.object fields) = .ok r := by
  rw [ofAnswer, requiredText_eq_ok_iff.mpr hvalue, requiredText_eq_ok_iff.mpr hlanguage]
  exact ⟨_, rfl⟩

theorem CoercedFrom.relevance_lt (h : r.CoercedFrom fields) : r.relevance < 2 ^ 31 := by
  rw [h.relevance]
  cases Json.lookup "relevance" fields with
  | none => decide
  | some v => exact v.toRelevance_lt

/-! ### The decoder that does not -/

/-- The fields that hold an answer as it is. -/
structure HeldBy (r : EngineResult) (fields : List (String × Json)) : Prop where
  value : Json.lookup "value" fields = some (.string r.value)
  illegal : Json.lookup "illegal" fields = some (.boolean r.illegal)
  relevance : Json.lookup "relevance" fields = some (.nat r.relevance)
  language : Json.lookup "language" fields = some (.string r.language)
  relevance_lt : r.relevance < relevanceLimit

theorem relevance32_nat {n : Nat} (h : n < relevanceLimit) : relevance32 (.nat n) = .ok n :=
  Json.unsigned_eq_ok_iff.mpr ⟨rfl, h⟩

def checks : List (String × Json.Decoder Unit) :=
  [("value", Json.checks Json.text), ("illegal", Json.checks Json.bool),
    ("relevance", Json.checks relevance32), ("language", Json.checks Json.text)]

theorem ofJson_object_eq_ok_iff :
    ofJson (.object fields) = .ok r ↔
      Json.checkFields checks fields = .ok () ∧ r.HeldBy fields := by
  constructor
  · intro h
    obtain ⟨_, hchecks, h⟩ := bind_eq_ok_iff.mp h
    obtain ⟨value, hvalue, h⟩ := bind_eq_ok_iff.mp h
    obtain ⟨illegal, hillegal, h⟩ := bind_eq_ok_iff.mp h
    obtain ⟨relevance, hrelevance, h⟩ := bind_eq_ok_iff.mp h
    obtain ⟨language, hlanguage, h⟩ := bind_eq_ok_iff.mp h
    obtain rfl := Except.ok.inj h
    simp only [Json.Source.get_eq_ok_iff, Json.text_eq_ok_iff, Json.bool_eq_ok_iff, relevance32,
      Json.unsigned_eq_ok_iff, exists_eq_right] at hvalue hillegal hlanguage hrelevance
    obtain ⟨_, hfound, rfl, hlt⟩ := hrelevance
    exact ⟨hchecks, hvalue, hillegal, hfound, hlanguage, hlt⟩
  · rintro ⟨hchecks, hheld⟩
    refine bind_eq_ok_iff.mpr ⟨(), hchecks, ?_⟩
    refine bind_eq_ok_iff.mpr ⟨r.value, ?_, ?_⟩
    · exact Json.Source.get_eq_ok_iff.mpr ⟨_, hheld.value, rfl⟩
    refine bind_eq_ok_iff.mpr ⟨r.illegal, ?_, ?_⟩
    · exact Json.Source.get_eq_ok_iff.mpr ⟨_, hheld.illegal, rfl⟩
    refine bind_eq_ok_iff.mpr ⟨r.relevance, ?_, ?_⟩
    · exact Json.Source.get_eq_ok_iff.mpr ⟨_, hheld.relevance, relevance32_nat hheld.relevance_lt⟩
    exact bind_eq_ok_iff.mpr ⟨r.language,
      Json.Source.get_eq_ok_iff.mpr ⟨_, hheld.language, rfl⟩, rfl⟩

/-- An object without repeated keys holds an answer iff it is decoded from it. -/
theorem ofJson_object_eq_ok_iff_heldBy (hkeys : (fields.map Prod.fst).Nodup) :
    ofJson (.object fields) = .ok r ↔ r.HeldBy fields := by
  rw [ofJson_object_eq_ok_iff, and_iff_right_of_imp]
  intro hheld
  apply Json.checkFields_of_lookup hkeys
  simp only [checks, List.forall_mem_cons, List.not_mem_nil, hheld.value, hheld.illegal,
    hheld.relevance, hheld.language, Option.some.injEq, forall_eq', Json.checks_eq_ok_iff]
  refine ⟨⟨_, rfl⟩, ⟨_, rfl⟩, ⟨_, relevance32_nat hheld.relevance_lt⟩, ⟨_, rfl⟩, ?_⟩
  intro _ hmem
  exact hmem.elim

/-! ### Both on the same object -/

/-- The fields that an answer is written with. -/
def written (r : EngineResult) : List (String × Json) :=
  [("value", .string r.value), ("illegal", .boolean r.illegal), ("relevance", .nat r.relevance),
    ("language", .string r.language)]

theorem heldBy_written (h : r.relevance < relevanceLimit) : r.HeldBy r.written where
  value := rfl
  illegal := rfl
  relevance := rfl
  language := rfl
  relevance_lt := h

theorem ofJson_toJson (h : r.relevance < relevanceLimit) : ofJson r.toJson = .ok r := by
  have hkeys : (r.written.map Prod.fst).Nodup := by
    show ["value", "illegal", "relevance", "language"].Nodup
    decide
  exact (ofJson_object_eq_ok_iff_heldBy hkeys).mpr (heldBy_written h)

/-- The answer with a relevance that is no signed 32-bit number taken for none. -/
def clamped (r : EngineResult) : EngineResult :=
  { r with relevance := if r.relevance < 2 ^ 31 then r.relevance else 0 }

theorem HeldBy.ofAnswer_eq (h : r.HeldBy fields) : ofAnswer (.object fields) = .ok r.clamped := by
  have hrelevance : (Json.nat r.relevance).toRelevance = r.clamped.relevance :=
    Json.toRelevance_nat h.relevance_lt
  refine ofAnswer_object_eq_ok_iff.mpr ⟨h.value, h.language, ?_, ?_⟩
  · rw [h.illegal]
    rfl
  · rw [h.relevance, ← hrelevance]
    rfl

theorem ofAnswer_toJson (h : r.relevance < relevanceLimit) :
    ofAnswer r.toJson = .ok r.clamped :=
  (heldBy_written h).ofAnswer_eq

/-- What the coercing decoder makes of answers that are written, of its own answers when they
are written again, and of everything that the other decoder takes. -/
theorem decoders_spec :
    (∀ r : EngineResult, r.relevance < relevanceLimit → ofAnswer r.toJson = .ok r.clamped) ∧
    (∀ (raw : Json) (r : EngineResult), ofAnswer raw = .ok r →
      r.relevance ≤ 2 ^ 31 - 1 ∧ ofAnswer r.toJson = .ok r ∧ ofJson r.toJson = .ok r) ∧
    ∀ (fields : List (String × Json)) (r : EngineResult),
      ofJson (.object fields) = .ok r → ofAnswer (.object fields) = .ok r.clamped := by
  refine ⟨fun r h => ofAnswer_toJson h, ?_, ?_⟩
  · intro raw r h
    obtain ⟨fields, rfl, hcoerced⟩ := ofAnswer_eq_ok_iff.mp h
    have hsigned := hcoerced.relevance_lt
    have hlimit : r.relevance < relevanceLimit := Nat.lt_trans hsigned (by decide)
    have hsame : r.clamped = r := by
      rw [clamped, if_pos hsigned]
    refine ⟨by omega, ?_, ofJson_toJson hlimit⟩
    rw [ofAnswer_toJson hlimit, hsame]
  · intro fields r h
    exact (ofJson_object_eq_ok_iff.mp h).2.ofAnswer_eq

/-- The least relevance that is lost, one that wraps around, and one that both decoders read from
an object in another order. -/
theorem decoders_spec_at_the_edges :
    ofAnswer (toJson ⟨"x", true, 2147483648, "y"⟩) = .ok ⟨"x", true, 0, "y"⟩ ∧
    (ofAnswer (toJson ⟨"x", false, 5, "y"⟩) = .ok ⟨"x", false, 5, "y"⟩ ∧
      ofJson (toJson ⟨"x", false, 5, "y"⟩) = .ok ⟨"x", false, 5, "y"⟩) ∧
    ofAnswer (.object [("language", .string "y"), ("code", .null), ("relevance", .nat 2147483647),
      ("value", .string "x"), ("illegal", .boolean true)]) = .ok ⟨"x", true, 2147483647, "y"⟩ := by
  obtain ⟨hwritten, hagain, hboth⟩ := decoders_spec
  refine ⟨hwritten ⟨"x", true, 2147483648, "y"⟩ (by decide), ?_, ?_⟩
  · have hwraps : ofAnswer (.object [("value", .string "x"), ("language", .string "y"),
        ("relevance", .nat 4294967301)]) = .ok ⟨"x", false, 5, "y"⟩ := by
      decide +kernel
    exact (hagain _ _ hwraps).2
  · apply hboth _ ⟨"x", true, 2147483647, "y"⟩
    rfl

end EngineResult

end LineHighlight
