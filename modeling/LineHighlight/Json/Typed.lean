import LineHighlight.Decode.Fault
import LineHighlight.Json.Printer

/-!
Typed decoding of JSON values.

A record is decoded from an object or from an array of its fields in the order of their
declaration. In an object the fields are taken in the order written: the first that cannot be
decoded is the fault, then the first missing one in the order of declaration. Fields that the
record does not have are skipped.
-/

namespace LineHighlight.Json

/-- `null` is called by its name, and a double is written as in JSON text. -/
def wording : Wording where
  unit := "null"
  double := JsonNumber.format.text

/-- What a value is found to be. -/
def found : Json → Found
  | .null => .unit
  | .boolean b => .boolean b
  | .number (.integer n) => .integer n
  | .number (.double x) => .double x
  | .string s => .string s
  | .array _ => .sequence
  | .object _ => .map

/-- A typed reading of a value. -/
abbrev Decoder (α : Type) := Json → Except DecodeFault α

/-- A string; `expected` names what the string is for. -/
def textAs (expected : String) : Decoder String
  | .string s => .ok s
  | v => .error (.invalidType v.found expected)

/-- A string. -/
def text : Decoder String :=
  textAs "a string"

/-- A boolean. -/
def bool : Decoder Bool
  | .boolean b => .ok b
  | v => .error (.invalidType v.found "a boolean")

/-- A natural number below a limit; `expected` names its type. -/
def unsigned (expected : String) (limit : Nat) : Decoder Nat
  | .number (.integer n) =>
    if 0 ≤ n ∧ n < limit then .ok n.toNat
    else .error (.invalidValue (.integer n) expected)
  | v => .error (.invalidType v.found expected)

/-- Nothing for `null`. -/
def optional {α : Type} (d : Decoder α) : Decoder (Option α)
  | .null => .ok none
  | v => (d v).map some

/-- One of named variants: its name, or an object with the name as only key and `null` under
it. -/
def enum {α : Type} (known : List (String × α)) : Decoder α
  | .string s => variant known s
  | .object [(name, content)] => do
    let v ← variant known name
    match content with
    | .null => .ok v
    | c => .error (.invalidType c.found "unit")
  | .object _ => .error (.invalidValue .map "map with a single key")
  | v => .error (.invalidType v.found "string or map")

/-! ## Records -/

/-- Where the fields of a record are taken from. -/
inductive Source where
  | named (fields : List (String × Json))
  /-- The elements of an array, with what the record expects. -/
  | positional (items : List Json) (expected : String)

/-- A field of a record by its name and its place; `fallback` stands for one that is absent. -/
def Source.get {α : Type} (src : Source) (name : String) (place : Nat) (d : Decoder α)
    (fallback : Option α) : Except DecodeFault α :=
  match src with
  | .named fields =>
    match lookup name fields, fallback with
    | some v, _ => d v
    | none, some a => .ok a
    | none, none => .error (.missingField name)
  | .positional items expected =>
    match items[place]?, fallback with
    | some v, _ => d v
    | none, some a => .ok a
    | none, none => .error (.invalidLength place expected)

/-- Whether a value can be decoded. -/
def checks {α : Type} (d : Decoder α) : Decoder Unit :=
  fun v => (d v).map fun _ => ()

/-- Checks the fields of an object in the order written. -/
def checkFields (known : List (String × Decoder Unit)) :
    List (String × Json) → Except DecodeFault Unit
  | [] => .ok ()
  | (name, v) :: rest => do
    match known.find? (fun p => p.1 == name) with
    | some p => p.2 v
    | none => .ok ()
    checkFields known rest

/-- How many elements a record has as an array. -/
def lengthText (name : String) (count : Nat) : String :=
  s!"struct {name} with {count} " ++ if count = 1 then "element" else "elements"

/-- A record with a name, the checks of its fields, and how they make up the record. -/
def record {α : Type} (name : String) (known : List (String × Decoder Unit))
    (build : Source → Except DecodeFault α) : Decoder α
  | .object fields => do
    checkFields known fields
    build (.named fields)
  | .array items => do
    let a ← build (.positional items (lengthText name known.length))
    if known.length < items.length then
      .error (.invalidLength items.length "fewer elements in array")
    else .ok a
  | v => .error (.invalidType v.found s!"struct {name}")

end LineHighlight.Json
