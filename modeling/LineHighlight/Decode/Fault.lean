import LineHighlight.Number.Binary64
import LineHighlight.Text.Quoted

/-!
Faults of typed decoding.

A value that does not fit the type asked for is described by what was found and what was
expected. The two document formats share the causes and differ in how two kinds of values are
worded.
-/

namespace LineHighlight

/-- What stands where something else was expected. -/
inductive Found where
  | unit
  | boolean (b : Bool)
  | integer (n : Int)
  /-- Integers beyond 64 bits, with the name of their type. -/
  | wideInteger (n : Int) (type : String)
  | double (x : Binary64)
  | string (s : String)
  | sequence
  | map
deriving DecidableEq, Repr

/-- Why a value cannot be decoded. -/
inductive DecodeFault where
  /-- The value is of another type than expected. -/
  | invalidType (found : Found) (expected : String)
  /-- The type fits and the value does not. -/
  | invalidValue (found : Found) (expected : String)
  | invalidLength (length : Nat) (expected : String)
  | unknownVariant (name : String) (known : List String)
  | missingField (name : String)
  | duplicateField (name : String)
deriving DecidableEq, Repr

/-- The words that a document format has for values of two kinds. -/
structure Wording where
  unit : String
  double : Binary64 → String

namespace Found

/-- What was found, in words. -/
def text (w : Wording) : Found → String
  | .unit => w.unit
  | .boolean b => s!"boolean `{b}`"
  | .integer n => s!"integer `{n}`"
  | .wideInteger n type => s!"integer `{n}` as {type}"
  | .double x => s!"floating point `{w.double x}`"
  | .string s => "string " ++ Text.quoted s
  | .sequence => "sequence"
  | .map => "map"

end Found

namespace DecodeFault

/-- Names in backquotes, with commas between them. -/
def namesText (names : List String) : String :=
  ", ".intercalate (names.map fun name => s!"`{name}`")

/-- The known variants, in words. -/
def oneOf : List String → String
  | [] => "there are no variants"
  | [a] => s!"expected `{a}`"
  | [a, b] => s!"expected `{a}` or `{b}`"
  | names => "expected one of " ++ namesText names

/-- The wording of a fault. -/
def message (w : Wording) : DecodeFault → String
  | .invalidType found expected => s!"invalid type: {found.text w}, expected {expected}"
  | .invalidValue found expected => s!"invalid value: {found.text w}, expected {expected}"
  | .invalidLength n expected => s!"invalid length {n}, expected {expected}"
  | .unknownVariant name known => s!"unknown variant `{name}`, {oneOf known}"
  | .missingField name => s!"missing field `{name}`"
  | .duplicateField name => s!"duplicate field `{name}`"

end DecodeFault

/-- The variant with a name. -/
def variant {α : Type} (known : List (String × α)) (name : String) : Except DecodeFault α :=
  match known.find? (fun p => p.1 == name) with
  | some p => .ok p.2
  | none => .error (.unknownVariant name (known.map Prod.fst))

end LineHighlight
