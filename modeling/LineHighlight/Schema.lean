import LineHighlight.Language
import LineHighlight.Json.Printer

/-!
Descriptions of types, as JSON Schema documents.

A field that may be absent has a default and is not among the required ones. An optional text
is written in one of two styles: as a union of two types, or as one type marked nullable.
-/

namespace LineHighlight

/-- How the type of an optional text is written. -/
inductive SchemaStyle where
  | union
  | nullable
deriving DecidableEq, Repr

/-- The type of a field. -/
inductive FieldType where
  | text
  | optionalText
  | flag (fallback : Option Bool)
  /-- A natural number in a named format. -/
  | natural (format : String)
  /-- A list of records of another type. -/
  | listOf (record : String)
deriving DecidableEq, Repr

/-- A field of a record type. -/
structure FieldSchema where
  name : String
  description : String
  type : FieldType
deriving DecidableEq, Repr

/-- A record type. -/
structure RecordSchema where
  title : String
  description : String
  fields : List FieldSchema
deriving DecidableEq, Repr

namespace FieldType

/-- What a field of the type says about its values. -/
def entries (style : SchemaStyle) : FieldType → List (String × Json)
  | .text => [("type", .string "string")]
  | .optionalText =>
    match style with
    | .union => [("type", .array [.string "string", .string "null"]), ("default", .null)]
    | .nullable => [("type", .string "string"), ("nullable", .boolean true), ("default", .null)]
  | .flag none => [("type", .string "boolean")]
  | .flag (some b) => [("type", .string "boolean"), ("default", .boolean b)]
  | .natural format =>
    [("type", .string "integer"), ("format", .string format), ("minimum", .nat 0)]
  | .listOf record =>
    [("type", .string "array"), ("items", .object [("$ref", .string ("#/$defs/" ++ record))])]

/-- Whether a field of the type must be there. -/
def isRequired : FieldType → Bool
  | .optionalText | .flag (some _) => false
  | _ => true

end FieldType

/-- A described member of a document. -/
def describedBy (description : String) : String × Json :=
  ("description", .string description)

/-- The dialect of the documents. -/
def schemaDialect : String × Json :=
  ("$schema", .string "https://json-schema.org/draft/2020-12/schema")

namespace RecordSchema

/-- What a record type says about its values: nothing of fields when it has none. -/
def body (style : SchemaStyle) (r : RecordSchema) : List (String × Json) :=
  let property (f : FieldSchema) : String × Json :=
    (f.name, .object (describedBy f.description :: f.type.entries style))
  let required := (r.fields.filter fun f => f.type.isRequired).map fun f => Json.string f.name
  [describedBy r.description, ("type", .string "object")] ++
    (if r.fields.isEmpty then [] else [("properties", .object (r.fields.map property))]) ++
    (if required.isEmpty then [] else [("required", .array required)])

/-- The document of a record type, with the types it refers to. -/
def document (style : SchemaStyle) (r : RecordSchema) (others : List RecordSchema) : Json :=
  .object ([schemaDialect, ("title", .string r.title)] ++ r.body style ++
    if others.isEmpty then []
    else [("$defs", .object (others.map fun o => (o.title, .object (o.body style))))])

end RecordSchema

/-- The document of the languages: one constant for each. -/
def Language.schema : Json :=
  .object [schemaDialect, ("title", .string "Language"),
    describedBy "Grammars shipped with the highlight.js \"common\" bundle.",
    ("oneOf", .array (Language.all.map fun l =>
      .object [describedBy l.description, ("type", .string "string"),
        ("const", .string l.typedName)]))]

end LineHighlight
