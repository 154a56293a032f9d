import LineHighlight.Error
import LineHighlight.Json.Typed
import LineHighlight.Number.Literal
import LineHighlight.Text.Blank
import LineHighlight.Text.Lines

/-!
What the engine answers and what a caller gets.

The engine's answer is loosely typed. Its value and language must be strings; the two other
fields are coerced from whatever stands there and never make the answer unusable.
-/

namespace LineHighlight

/-- The answer of one engine call. -/
structure EngineResult where
  value : String
  illegal : Bool
  relevance : Nat
  language : String
deriving DecidableEq, Repr, Inhabited

/-- The result of a request. -/
structure HighlightResult where
  value : String
  illegal : Bool
  language : String
  relevance : Nat
deriving DecidableEq, Repr, Inhabited

/-! ## The coercions of an answer -/

namespace Json

/-- Whether a value counts as true: no null, no `false`, no zero, no empty string. -/
def isTruthy : Json → Bool
  | .null => false
  | .boolean b => b
  | .number n =>
    match n.toBinary64 with
    | .nan => false
    | x => !x.isZero
  | .string s => s ≠ ""
  | .array _ => true
  | .object _ => true

/-- The number that a relevance field holds. A string holds the numeral in it. -/
def relevanceNumber : Json → Binary64
  | .number n => n.toBinary64
  | .boolean b => Binary64.ofInt (if b then 1 else 0)
  | .string s => (Numeral.plain? (Text.trim s)).getD (Binary64.zero false)
  | _ => Binary64.zero false

/-- The relevance in a field: its number as a signed 32-bit integer, a negative one as zero. -/
def toRelevance (v : Json) : Nat :=
  v.relevanceNumber.toInt32.toNat

end Json

namespace EngineResult

/-- A field that must be a string. -/
def requiredText (fields : List (String × Json)) (name : String) : Except Error String :=
  match Json.lookup name fields with
  | some (.string s) => .ok s
  | some other =>
    .error (.malformedEngineResponse s!"field `{name}` must be a string, got {other.kind}")
  | none => .error (.malformedEngineResponse s!"missing field `{name}`")

/-- Decodes the engine's answer. -/
def ofAnswer : Json → Except Error EngineResult
  | .object fields => do
    let value ← requiredText fields "value"
    let language ← requiredText fields "language"
    .ok {
      value := value
      illegal := ((Json.lookup "illegal" fields).map Json.isTruthy).getD false
      relevance := ((Json.lookup "relevance" fields).map Json.toRelevance).getD 0
      language := language }
  | other => .error (.malformedEngineResponse s!"expected an object, got {other.kind}")

/-- The limit of a relevance. -/
def relevanceLimit : Nat := Nat.pow 2 32

/-- The typed form of an answer. -/
def toJson (r : EngineResult) : Json :=
  .object [("value", .string r.value), ("illegal", .boolean r.illegal),
    ("relevance", .nat r.relevance), ("language", .string r.language)]

/-- A relevance in a typed document. -/
def relevance32 : Json.Decoder Nat :=
  Json.unsigned "u32" relevanceLimit

/-- The answer of a typed document. -/
def ofJson : Json.Decoder EngineResult :=
  Json.record "EngineResult"
    [("value", Json.checks Json.text), ("illegal", Json.checks Json.bool),
      ("relevance", Json.checks relevance32), ("language", Json.checks Json.text)]
    fun src => do
      let value ← src.get "value" 0 Json.text none
      let illegal ← src.get "illegal" 1 Json.bool none
      let relevance ← src.get "relevance" 2 relevance32 none
      let language ← src.get "language" 3 Json.text none
      .ok ⟨value, illegal, relevance, language⟩

end EngineResult

namespace HighlightResult

/-- The language reported for a text of many lines. -/
def mixedLanguage : String := "mixed"

/-- What follows a line that the engine marked up. -/
def successTerminator : String := "\n "

/-- What follows a line that is kept as it was. -/
def failureTerminator : String := "\n"

/-- The result for a text none of whose lines was marked up. -/
def unhighlighted (text : String) : HighlightResult where
  value := String.join ((Text.lines text).map (· ++ failureTerminator))
  illegal := false
  language := mixedLanguage
  relevance := 0

/-- The typed form of a result. -/
def toJson (r : HighlightResult) : Json :=
  .object [("value", .string r.value), ("illegal", .boolean r.illegal),
    ("language", .string r.language), ("relevance", .nat r.relevance)]

/-- The result of a typed document. -/
def ofJson : Json.Decoder HighlightResult :=
  Json.record "HighlightResult"
    [("value", Json.checks Json.text), ("illegal", Json.checks Json.bool),
      ("language", Json.checks Json.text), ("relevance", Json.checks EngineResult.relevance32)]
    fun src => do
      let value ← src.get "value" 0 Json.text none
      let illegal ← src.get "illegal" 1 Json.bool none
      let language ← src.get "language" 2 Json.text none
      let relevance ← src.get "relevance" 3 EngineResult.relevance32 none
      .ok ⟨value, illegal, language, relevance⟩

end HighlightResult

end LineHighlight
