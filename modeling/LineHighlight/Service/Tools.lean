import LineHighlight.Mode
import LineHighlight.Result
import LineHighlight.Schema

/-!
The two tools of the service: what they take and what they give.

`highlight` takes a text with an optional language and a flag; `list_languages` takes nothing
and gives every language with its count.
-/

namespace LineHighlight

/-- What a request for highlighting holds. -/
structure HighlightParams where
  text : String
  language : Option String := none
  ignoreIllegals : Bool := false
deriving DecidableEq, Repr, Inhabited

namespace HighlightParams

/-- The mode that the parameters select. -/
def mode (p : HighlightParams) : Mode :=
  Mode.ofRequest p.language p.ignoreIllegals

/-- The parameters of a typed document; only the text must be there. -/
def ofJson : Json.Decoder HighlightParams :=
  Json.record "HighlightParams"
    [("text", Json.checks Json.text), ("language", Json.checks (Json.optional Json.text)),
      ("ignore_illegals", Json.checks Json.bool)]
    fun src => do
      let text ← src.get "text" 0 Json.text none
      let language ← src.get "language" 1 (Json.optional Json.text) (some none)
      let ignoreIllegals ← src.get "ignore_illegals" 2 Json.bool (some false)
      .ok ⟨text, language, ignoreIllegals⟩

/-- The typed form. -/
def toJson (p : HighlightParams) : Json :=
  .object [("text", .string p.text),
    ("language", match p.language with | some s => .string s | none => .null),
    ("ignore_illegals", .boolean p.ignoreIllegals)]

/-- The type of the parameters. -/
def schema : RecordSchema where
  title := "HighlightParams"
  description := "Parameters for highlight"
  fields := [
    ⟨"text", "Source text to highlight", .text⟩,
    ⟨"language", "Grammar alias (e.g., \"rust\", \"python\").\n" ++
      "If not specified, the language is detected automatically", .optionalText⟩,
    ⟨"ignore_illegals", "Keep highlighting past syntax the grammar considers illegal.\n" ++
      "Ignored when no language is given", .flag (some false)⟩]

end HighlightParams

/-- What a request for the languages holds: nothing. -/
structure ListLanguagesParams where
deriving DecidableEq, Repr, Inhabited

namespace ListLanguagesParams

/-- The parameters of a typed document. -/
def ofJson : Json.Decoder ListLanguagesParams :=
  Json.record "ListLanguagesParams" [] fun _ => .ok {}

/-- The type of the parameters. -/
def schema : RecordSchema where
  title := "ListLanguagesParams"
  description := "Parameters for list_languages"
  fields := []

end ListLanguagesParams

/-- A language as it is listed: the name of its grammar and its name for a reader. -/
structure LanguageInfo where
  grammar : String
  name : String
deriving DecidableEq, Repr, Inhabited

namespace LanguageInfo

/-- What is listed of a language. -/
def ofLanguage (l : Language) : LanguageInfo :=
  ⟨l.grammar, l.displayName⟩

/-- The typed form. -/
def toJson (i : LanguageInfo) : Json :=
  .object [("alias", .string i.grammar), ("name", .string i.name)]

/-- The type of an entry. -/
def schema : RecordSchema where
  title := "LanguageInfo"
  description := "Information about a supported language"
  fields := [
    ⟨"alias", "Grammar alias to pass as `language`", .text⟩,
    ⟨"name", "Human-readable name", .text⟩]

end LanguageInfo

/-- The languages with their count. -/
structure LanguageList where
  languages : List LanguageInfo
  count : Nat
deriving DecidableEq, Repr, Inhabited

namespace LanguageList

/-- Every language. -/
def all : LanguageList where
  languages := Language.all.map LanguageInfo.ofLanguage
  count := Language.all.length

/-- The typed form. -/
def toJson (r : LanguageList) : Json :=
  .object [("languages", .array (r.languages.map LanguageInfo.toJson)), ("count", .nat r.count)]

/-- The type of the list. -/
def schema : RecordSchema where
  title := "ListLanguagesResponse"
  description := "Response for list_languages"
  fields := [
    ⟨"languages", "Supported languages", .listOf "LanguageInfo"⟩,
    ⟨"count", "Total count", .natural "uint"⟩]

end LanguageList

/-- The type of a result. -/
def HighlightResult.schema : RecordSchema where
  title := "HighlightResult"
  description := "Aggregate result returned to callers."
  fields := [
    ⟨"value", "Stitched marked-up text", .text⟩,
    ⟨"illegal", "True if any segment was illegal", .flag none⟩,
    ⟨"language", "Reported language, always [`MIXED_LANGUAGE`] for aggregated output", .text⟩,
    ⟨"relevance", "Sum of the segments' relevance", .natural "uint32"⟩]

/-- The documents of the service's types by their titles. -/
def schemaDocument? (title : String) : Option Json :=
  match title with
  | "Language" => some Language.schema
  | "HighlightResult" => some (HighlightResult.schema.document .union [])
  | "HighlightParams" => some (HighlightParams.schema.document .union [])
  | "ListLanguagesParams" => some (ListLanguagesParams.schema.document .union [])
  | "LanguageInfo" => some (LanguageInfo.schema.document .union [])
  | "ListLanguagesResponse" => some (LanguageList.schema.document .union [LanguageInfo.schema])
  | _ => none

end LineHighlight
