import LineHighlight.Proofs.Json.Refusals
import LineHighlight.Proofs.Script.Handover
import LineHighlight.Proofs.Text.Surrogates

/-! Results whose value and language are strings.
A script's string is any list of units. Handed over, it comes back as the text whose units it is,
and if it is the form of no text the whole result is refused. -/

namespace LineHighlight.Script

open Json (WrittenField Refused ReadsAs)
open Text (Unit16 HasLoneSurrogate)

variable {us vs : List Unit16}

/-! ## Strings -/

/-- A high surrogate that stands alone is followed by no escape of a low one. -/
theorem not_opensLow_pieces (h : us.head?.any Text.isLowSurrogate = false) (rest : List Char) :
    ¬ Json.OpensLow ((Text.scalars us).flatMap escapePiece ++ '"' :: rest) := by
  induction us using Text.units_induction with
  | nil => exact Json.not_opensLow_quote rest
  | pair u v us hu hv _ =>
      rw [Text.scalars_cons_cons_of_pair hu hv, List.flatMap_cons, List.append_assoc]
      exact Json.not_opensLow_escapeChar _ _
  | plain u us hhigh hlow _ =>
      rw [Text.scalars_cons_of_not_surrogate hhigh hlow, List.flatMap_cons, List.append_assoc]
      exact Json.not_opensLow_escapeChar _ _
  | high u us hu hus =>
      rw [Text.scalars_cons_of_high hu hus, List.flatMap_cons, List.append_assoc]
      simp only [Text.isHighSurrogate, Bool.and_eq_true, decide_eq_true_eq] at hu
      exact Json.not_opensLow_hex4 u.toNat_lt (.inl hu.2) _
  | low u us hu =>
      rw [List.head?_cons, Option.any_some, hu] at h
      cases h

theorem refusedString_of_lone (h : HasLoneSurrogate us) (rest : List Char) :
    Json.RefusedString ((Text.scalars us).flatMap escapePiece ++ '"' :: rest) := by
  induction us using Text.units_induction with
  | nil =>
      obtain ⟨front, u, back, hnil, -⟩ := h
      simp at hnil
  | pair u v us hu hv ih =>
      rw [Text.scalars_cons_cons_of_pair hu hv, List.flatMap_cons, List.append_assoc]
      exact (ih (h.of_pair hu hv)).escapeChar _
  | plain u us hhigh hlow ih =>
      rw [Text.scalars_cons_of_not_surrogate hhigh hlow, List.flatMap_cons, List.append_assoc]
      exact (ih (h.of_cons hhigh hlow)).escapeChar _
  | high u us hu hus =>
      rw [Text.scalars_cons_of_high hu hus, List.flatMap_cons, List.append_assoc]
      simp only [Text.isHighSurrogate, Bool.and_eq_true, decide_eq_true_eq] at hu
      exact Json.refusedString_of_unicodeEscape
        (Json.unicodeEscape_high hu.1 (by omega) (not_opensLow_pieces hus rest))
  | low u us hu =>
      rw [Text.scalars_cons_of_low hu, List.flatMap_cons, List.append_assoc]
      simp only [Text.isLowSurrogate, Bool.and_eq_true, decide_eq_true_eq] at hu
      exact Json.refusedString_of_unicodeEscape
        ⟨_, Json.unicodeEscape_low hu.1 (by omega) _⟩

/-- The JSON text of a string is refused if one of its surrogates stands alone. -/
theorem refused_quoteUnits (scale : Json.Scaling) (depth : Nat) (h : HasLoneSurrogate us) :
    Refused (Json.readValue scale depth) (quoteUnits us) := by
  intro rest
  obtain ⟨e, he⟩ := refusedString_of_lone h rest
    (((Text.scalars us).flatMap escapePiece ++ '"' :: rest).length + 1) []
  refine ⟨e, ?_⟩
  rw [quoteUnits, List.cons_append, List.cons_append, Json.readValue_quote, List.append_assoc,
    List.singleton_append, Json.readString, he]
  rfl

theorem readsAs_quoteUnits (scale : Json.Scaling) (depth : Nat) (s : String) :
    ReadsAs (Json.readValue scale depth) (quoteUnits (Text.units s)) (.string s) := by
  rw [quoteUnits_units]
  exact Json.readsAs_quote scale depth s

/-! ## Results -/

namespace Value

/-- Whether a value is undefined, null, a boolean, a number or a string. -/
def isPlain : Value → Bool
  | undefined | null | boolean _ | number _ _ | string _ => true
  | _ => false

theorem exists_toInt32_of_plain {v : Value} (h : v.isPlain = true) : ∃ n, v.toInt32 = .ok n := by
  have hnumber : ∃ x, v.primitiveNumber = .ok x ∧ v.isObject = false := by
    cases v with
    | undefined => exact ⟨_, rfl, rfl⟩
    | null => exact ⟨_, rfl, rfl⟩
    | boolean b => exact ⟨_, rfl, rfl⟩
    | number x isInteger => exact ⟨_, rfl, rfl⟩
    | string us =>
        simp only [primitiveNumber]
        split
        · exact ⟨_, rfl, rfl⟩
        · exact ⟨_, rfl, rfl⟩
    | _ => cases h
  obtain ⟨x, hx, hobject⟩ := hnumber
  exact ⟨_, toInt32_of_primitive hobject hx⟩

end Value

/-- The four fields that are handed over for two strings. -/
def stringFields (us vs : List Unit16) (illegal : Bool) (n : Int) : List (String × Value) :=
  [("value", .string us), ("language", .string vs), ("illegal", .boolean illegal),
    ("relevance", .ofDouble (Binary64.ofInt n))]

/-- The four fields as they are written, with what the two strings read as. -/
def writtenStrings (us vs : List Unit16) (value language : Json) (illegal : Bool) (n : Int) :
    List WrittenField :=
  [⟨"value", quoteUnits us, value⟩, ⟨"language", quoteUnits vs, language⟩,
    ⟨"illegal", (Json.boolean illegal).compactChars, .boolean illegal⟩,
    ⟨"relevance", (Json.int n).compactChars, .int n⟩]

/-- The text of an object with fields. -/
def objectText (fs : List WrittenField) : String :=
  String.ofList ('{' :: ((fs.map WrittenField.chars).intersperse [',']).flatten ++ ['}'])

theorem jsonFieldsAt_strings (us vs : List Unit16) (value language : Json) (illegal : Bool)
    {n : Int} (hn : n.natAbs < 2 ^ 53) {fuel : Nat} (hfuel : 4 < fuel) :
    Value.jsonFieldsAt fuel (stringFields us vs illegal n) =
      .ok ((writtenStrings us vs value language illegal n).map WrittenField.chars) := by
  obtain ⟨fuel, rfl⟩ : ∃ more, fuel = more + 5 := ⟨fuel - 5, by omega⟩
  have hillegal := Value.jsonAt_atom (v := .boolean illegal) trivial (fuel + 1)
  have hrelevance := Value.jsonAt_atom (v := .int n) hn fuel
  have hnil : Value.jsonFieldsAt (fuel + 1) [] = .ok [] := rfl
  have hthird := OptionalFields.jsonFieldsAt_cons rfl hillegal
    (OptionalFields.jsonFieldsAt_cons rfl hrelevance hnil "relevance") "illegal"
  have hsecond := OptionalFields.jsonFieldsAt_cons (v := .string vs) rfl rfl hthird "language"
  exact OptionalFields.jsonFieldsAt_cons (v := .string us) rfl rfl hsecond "value"

theorem toJson_strings (us vs : List Unit16) (value language : Json) (illegal : Bool) {n : Int}
    (hn : n.natAbs < 2 ^ 53) :
    (Value.record .undefined (stringFields us vs illegal n)).toJson =
      .ok (some (objectText (writtenStrings us vs value language illegal n))) := by
  have hnames : ∀ f ∈ stringFields us vs illegal n, indexOfKey? f.1 = none ∧ f.1 ≠ "toJSON" :=
    fun f hf => contractNames_plain f.1 (List.mem_map_of_mem (f := Prod.fst) hf)
  exact OptionalFields.toJson_record hnames fun fuel hfuel =>
    jsonFieldsAt_strings us vs value language illegal hn hfuel

theorem read_strings (s t : String) (illegal : Bool) {n : Int} (hn : n.natAbs < 2 ^ 53) :
    Json.read (objectText
      (writtenStrings (Text.units s) (Text.units t) (.string s) (.string t) illegal n)) =
      .ok (.object [("value", .string s), ("language", .string t), ("illegal", .boolean illegal),
        ("relevance", .int n)]) := by
  refine Json.readWith_of_readsAs (WrittenField.readsAs_object _ _ ?_)
  intro f hf
  simp only [writtenStrings, List.mem_cons, List.not_mem_nil, or_false] at hf
  rcases hf with rfl | rfl | rfl | rfl
  · exact readsAs_quoteUnits _ _ s
  · exact readsAs_quoteUnits _ _ t
  · exact Json.readsAs_atom _ _ trivial
  · exact Json.readsAs_atom _ _ hn

theorem read_strings_of_lone (hlone : HasLoneSurrogate us ∨ HasLoneSurrogate vs) (illegal : Bool)
    (n : Int) :
    ∃ value language e,
      Json.read (objectText (writtenStrings us vs value language illegal n)) = .error e := by
  by_cases hus : HasLoneSurrogate us
  · exact ⟨.null, .null, Json.readWith_of_refused (WrittenField.refused_object []
      nofun (refused_quoteUnits _ _ hus) _)⟩
  · obtain ⟨s, rfl⟩ := Text.exists_units_eq_iff.mpr hus
    have hvs : HasLoneSurrogate vs := hlone.resolve_left hus
    have hvalue : ∀ f ∈ [(⟨"value", quoteUnits (Text.units s), .string s⟩ : WrittenField)],
        ReadsAs (Json.readValue Json.twoRoundings 126) f.text f.value := by
      intro f hf
      obtain rfl := List.mem_singleton.mp hf
      exact readsAs_quoteUnits _ _ s
    exact ⟨.string s, .null, Json.readWith_of_refused
      (WrittenField.refused_object _ hvalue (refused_quoteUnits _ _ hvs) _)⟩

/-- What becomes of a result whose JSON text has the four fields. -/
def decoded (call : EngineCall) (text : String) : Except Error EngineResult :=
  (call.decode (some text)).bind EngineResult.ofAnswer

/-- Two texts come back as they are. -/
theorem decoded_texts (call : EngineCall) (s t : String) (illegal : Bool) {n : Int}
    (hn : n.natAbs < 2 ^ 53) :
    ∃ r, decoded call (objectText
        (writtenStrings (Text.units s) (Text.units t) (.string s) (.string t) illegal n)) = .ok r ∧
      r.value = s ∧ r.language = t := by
  have hread := read_strings s t illegal hn
  simp only [decoded, EngineCall.decode, hread]
  exact ⟨_, rfl, rfl, rfl⟩

/-- With a surrogate that stands alone in one of them nothing comes back. -/
theorem decoded_lone (call : EngineCall) (hlone : HasLoneSurrogate us ∨ HasLoneSurrogate vs)
    (illegal : Bool) (n : Int) :
    ∃ value language reason, decoded call (objectText
      (writtenStrings us vs value language illegal n)) = .error (.serialization reason) := by
  obtain ⟨value, language, e, hread⟩ := read_strings_of_lone hlone illegal n
  refine ⟨value, language, e.message, ?_⟩
  simp only [decoded, EngineCall.decode, hread]
  rfl

end LineHighlight.Script
