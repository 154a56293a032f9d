import LineHighlight.Proofs.Result.Decoding
import LineHighlight.Proofs.Script.Coercion

/-! Which answers the coercing decoder accepts.
Two fields decide, and they are looked at in turn. The two others are coerced as a script would
coerce them, and no other field is looked at. -/

namespace LineHighlight

theorem Json.lookup_filter_ne {name key : String} (h : name ≠ key) (fields : List (String × Json)) :
    lookup name (fields.filter fun f => f.1 ≠ key) = lookup name fields := by
  induction fields with
  | nil => rfl
  | cons f fields ih =>
      obtain ⟨k, v⟩ := f
      by_cases hk : k = key
      · rw [List.filter_cons_of_neg (by simpa using hk), ih, lookup, if_neg (hk ▸ h.symm)]
      · rw [List.filter_cons_of_pos (by simpa using hk), lookup, lookup, ih]

namespace EngineResult

/-- The fields that an answer is read from. -/
def names : List String := ["value", "language", "illegal", "relevance"]

/-- What is said of a field that must be a string, if it is none. -/
def offence (name : String) : Option Json → String
  | some v => s!"field `{name}` must be a string, got {v.kind}"
  | none => s!"missing field `{name}`"

variable {fields fields' : List (String × Json)}

theorem requiredText_of_not_string {name : String}
    (h : ∀ s, Json.lookup name fields ≠ some (.string s)) :
    requiredText fields name =
      .error (.malformedEngineResponse (offence name (Json.lookup name fields))) := by
  rw [requiredText]
  split
  next s hs => exact absurd hs (h s)
  next v _ hv =>
    rw [hv]
    rfl
  next hnone =>
    rw [hnone]
    rfl

/-- The value is looked at first. -/
theorem ofAnswer_of_bad_value (h : ∀ s, Json.lookup "value" fields ≠ some (.string s)) :
    ofAnswer (.object fields) =
      .error (.malformedEngineResponse (offence "value" (Json.lookup "value" fields))) := by
  rw [ofAnswer, requiredText_of_not_string h]
  rfl

theorem ofAnswer_of_bad_language {value : String}
    (hvalue : Json.lookup "value" fields = some (.string value))
    (h : ∀ s, Json.lookup "language" fields ≠ some (.string s)) :
    ofAnswer (.object fields) =
      .error (.malformedEngineResponse (offence "language" (Json.lookup "language" fields))) := by
  rw [ofAnswer, requiredText_eq_ok_iff.mpr hvalue, requiredText_of_not_string h]
  rfl

theorem ofAnswer_of_no_object {raw : Json} (h : ∀ fields, raw ≠ .object fields) :
    ofAnswer raw = .error (.malformedEngineResponse s!"expected an object, got {raw.kind}") := by
  cases raw with
  | object fields => exact absurd rfl (h fields)
  | _ => rfl

/-- Every failure is one of the answer. -/
theorem ofAnswer_eq_error {raw : Json} {e : Error} (h : ofAnswer raw = .error e) :
    ∃ reason, e = .malformedEngineResponse reason := by
  have hreason : ∀ {reason}, ofAnswer raw = .error (.malformedEngineResponse reason) →
      ∃ reason, e = .malformedEngineResponse reason :=
    fun h' => ⟨_, Except.error.inj (h.symm.trans h')⟩
  by_cases hobject : ∃ fields, raw = .object fields
  · obtain ⟨fields, rfl⟩ := hobject
    by_cases hvalue : ∃ s, Json.lookup "value" fields = some (.string s)
    · obtain ⟨value, hvalue⟩ := hvalue
      by_cases hlanguage : ∃ s, Json.lookup "language" fields = some (.string s)
      · obtain ⟨language, hlanguage⟩ := hlanguage
        obtain ⟨r, hr⟩ := exists_ofAnswer_eq_ok hvalue hlanguage
        cases hr.symm.trans h
      · exact hreason (ofAnswer_of_bad_language hvalue (not_exists.mp hlanguage))
    · exact hreason (ofAnswer_of_bad_value (not_exists.mp hvalue))
  · exact hreason (ofAnswer_of_no_object (not_exists.mp hobject))

/-- Objects with the same four fields are decoded alike, down to the failure. -/
theorem ofAnswer_congr (h : ∀ name ∈ names, Json.lookup name fields = Json.lookup name fields') :
    ofAnswer (.object fields) = ofAnswer (.object fields') := by
  have hrequired : ∀ name ∈ names, requiredText fields name = requiredText fields' name := by
    intro name hname
    rw [requiredText, requiredText, h name hname]
  rw [ofAnswer, ofAnswer, hrequired "value" (by simp [names]),
    hrequired "language" (by simp [names]), h "illegal" (by simp [names]),
    h "relevance" (by simp [names])]

/-- When an answer is accepted, what is taken from it, what a refusal says, and which fields make
no difference. -/
structure AcceptanceSpec (raw : Json) : Prop where
  accepted_iff : (∃ r, ofAnswer raw = .ok r) ↔ ∃ fields value language, raw = .object fields ∧
    Json.lookup "value" fields = some (.string value) ∧
    Json.lookup "language" fields = some (.string language)
  verbatim : ∀ fields r, raw = .object fields → ofAnswer raw = .ok r →
    Json.lookup "value" fields = some (.string r.value) ∧
    Json.lookup "language" fields = some (.string r.language) ∧
    r.illegal = (Script.Value.ofPlain? (Json.lookup "illegal" fields)).toBoolean
  no_object : (∀ fields, raw ≠ .object fields) →
    ofAnswer raw = .error (.malformedEngineResponse s!"expected an object, got {raw.kind}")
  refused : ∀ e, ofAnswer raw = .error e → ∃ reason, e = .malformedEngineResponse reason
  value_first : ∀ fields, raw = .object fields →
    (∀ s, Json.lookup "value" fields ≠ some (.string s)) →
    ofAnswer raw =
      .error (.malformedEngineResponse (offence "value" (Json.lookup "value" fields)))
  then_language : ∀ fields value, raw = .object fields →
    Json.lookup "value" fields = some (.string value) →
    (∀ s, Json.lookup "language" fields ≠ some (.string s)) →
    ofAnswer raw =
      .error (.malformedEngineResponse (offence "language" (Json.lookup "language" fields)))
  same_names : ∀ fields fields', raw = .object fields →
    (∀ name ∈ names, Json.lookup name fields' = Json.lookup name fields) →
    ofAnswer (.object fields') = ofAnswer raw
  set_other : ∀ fields key v, raw = .object fields → key ∉ names →
    ofAnswer (.object (Json.insert key v fields)) = ofAnswer raw
  remove_other : ∀ fields key, raw = .object fields → key ∉ names →
    ofAnswer (.object (fields.filter fun f => f.1 ≠ key)) = ofAnswer raw

theorem acceptance_spec (raw : Json) : AcceptanceSpec raw where
  accepted_iff := by
    constructor
    · rintro ⟨r, hr⟩
      obtain ⟨fields, rfl, hcoerced⟩ := ofAnswer_eq_ok_iff.mp hr
      exact ⟨fields, _, _, rfl, hcoerced.value, hcoerced.language⟩
    · rintro ⟨fields, value, language, rfl, hvalue, hlanguage⟩
      exact exists_ofAnswer_eq_ok hvalue hlanguage
  verbatim := by
    rintro fields r rfl hr
    have hcoerced := ofAnswer_object_eq_ok_iff.mp hr
    refine ⟨hcoerced.value, hcoerced.language, ?_⟩
    rw [hcoerced.illegal, Script.Value.toBoolean_ofPlain?]
  no_object h := ofAnswer_of_no_object h
  refused _ := ofAnswer_eq_error
  value_first := by
    rintro fields rfl h
    exact ofAnswer_of_bad_value h
  then_language := by
    rintro fields value rfl hvalue h
    exact ofAnswer_of_bad_language hvalue h
  same_names := by
    rintro fields fields' rfl h
    exact ofAnswer_congr h
  set_other := by
    rintro fields key v rfl hkey
    apply ofAnswer_congr
    intro name hname
    have hne : key ≠ name := fun h => hkey (h ▸ hname)
    exact Json.lookup_insert_of_ne hne v fields
  remove_other := by
    rintro fields key rfl hkey
    apply ofAnswer_congr
    intro name hname
    have hne : name ≠ key := fun h => hkey (h ▸ hname)
    exact Json.lookup_filter_ne hne fields

end EngineResult

end LineHighlight
