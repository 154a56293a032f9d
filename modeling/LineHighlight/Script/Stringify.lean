import LineHighlight.Json.Printer
import LineHighlight.Script.Convert

/-!
JSON text of script values.

Values that JSON has no words for are left out of objects and are `null` in arrays. A method
`toJSON` of an object gives the value to write in its place, once. The fields of an object are
written in the order of its keys: numbers first, the least one first, and then the other names
in the order in which they were set. Surrogates that stand alone are written as escapes, so the
text itself is always well formed.
-/

namespace LineHighlight.Script

open Text (Unit16)

/-- A piece of a string inside its quotes. -/
def escapePiece : Char ⊕ Unit16 → List Char
  | .inl c => Json.escapeChar c
  | .inr u => '\\' :: 'u' :: Json.hex4 u.toNat

/-- A string in quotes. -/
def quoteUnits (units : List Unit16) : List Char :=
  '"' :: (Text.scalars units).flatMap escapePiece ++ ['"']

/-- The number of a key that is the place of an element: a decimal numeral without zeros in
front, below the greatest number of 32 bits. -/
def indexOfKey? (key : String) : Option Nat :=
  (Numeral.inRadix? 10 key.toList).filter fun n => n < 4294967295 && toString n == key

/-- Puts a field with a number before the first one whose number is greater. -/
def insertByIndex {α : Type} (n : Nat) (a : α) : List (Nat × α) → List (Nat × α)
  | [] => [(n, a)]
  | (m, b) :: rest => if n < m then (n, a) :: (m, b) :: rest else (m, b) :: insertByIndex n a rest

/-- Fields in the order of their keys. -/
def inKeyOrder {α : Type} (fields : List (String × α)) : List (String × α) :=
  let indexed := fields.foldl
    (fun sorted f => match indexOfKey? f.1 with
      | some n => insertByIndex n f sorted
      | none => sorted) []
  indexed.map Prod.snd ++ fields.filter fun f => (indexOfKey? f.1).isNone

namespace Value

/-- Sets a field: in its place if there is one with the name, at the end if not. -/
def setField (name : String) (v : Value) : List (String × Value) → List (String × Value)
  | [] => [(name, v)]
  | (k, w) :: rest => if k = name then (k, v) :: rest else (k, w) :: setField name v rest

/-- The fields of an object that holds itself, as they are written: to write itself is an
error. -/
def tied (fields : List (String × Value)) : List (String × Value) :=
  setField "_list" (.throwing "circular reference")
    (setField "_top" (.throwing "circular reference") fields)

/-- What is written of an object that holds itself. Only what is written field by field comes
to the fields in which it does. -/
def untied : Value → Value
  | .cyclic (.record parent fields) => .record parent (tied fields)
  | .cyclic (.boxed .symbol) => .record .undefined (tied [])
  | .cyclic inner => inner
  | v => v

/-- The value to be written for a field: what `toJSON` gives, if there is such a method. -/
def jsonView (v : Value) : Run Value :=
  if v.isObject then
    do
      let method ← v.get "toJSON"
      method.callResult?.getD (.ok v)
  else .ok v

mutual

/-- The JSON text of a value; nothing for a value that is left out. The fuel bounds the depth
of the value. -/
def jsonAt : Nat → Value → Run (Option (List Char))
  | 0, _ => .ok none
  | fuel + 1, v => do
    match (← v.jsonView).untied with
    | .undefined | .symbol | .function _ | .throwing _ => .ok none
    | .null => .ok (some "null".toList)
    | .boolean b => .ok (some (if b then "true" else "false").toList)
    | .number x _ => .ok (some (if x.isFinite then numberFormat.text x else "null").toList)
    | .bigint _ | .boxed (.bigint _) =>
      .error (.error "BigInt are forbidden in JSON.stringify")
    | .string units => .ok (some (quoteUnits units))
    | .boxed (.boolean b) => .ok (some (if b then "true" else "false").toList)
    | .boxed (.number x _) =>
      .ok (some (if x.isFinite then numberFormat.text x else "null").toList)
    | .boxed (.string units) => .ok (some (quoteUnits units))
    | .boxed _ => .ok (some ['{', '}'])
    | .array items => do
      let texts ← jsonItemsAt fuel items
      .ok (some ('[' :: (texts.intersperse [',']).flatten ++ [']']))
    | .record _ fields => do
      let texts ← jsonFieldsAt fuel (inKeyOrder fields)
      .ok (some ('{' :: (texts.intersperse [',']).flatten ++ ['}']))
    | .cyclic _ => .error (.error "circular reference")

/-- The texts of the elements of an array. -/
def jsonItemsAt : Nat → List Value → Run (List (List Char))
  | 0, _ => .ok []
  | _, [] => .ok []
  | fuel + 1, v :: rest => do
    let text ← jsonAt fuel v
    let texts ← jsonItemsAt fuel rest
    .ok (text.getD "null".toList :: texts)

/-- The texts of the fields of an object that are not left out. -/
def jsonFieldsAt : Nat → List (String × Value) → Run (List (List Char))
  | 0, _ => .ok []
  | _, [] => .ok []
  | fuel + 1, (name, v) :: rest => do
    match v with
    | .throwing message => .error (.error message)
    | v => do
      let text ← jsonAt fuel v
      let texts ← jsonFieldsAt fuel rest
      match text with
      | some s => .ok ((Json.quote name ++ ':' :: s) :: texts)
      | none => .ok texts

end

/-- The JSON text of a value; nothing for a value that JSON cannot show. -/
def toJson (v : Value) : Run (Option String) := do
  let text ← jsonAt v.fuelFor v
  .ok (text.map String.ofList)

end Value

end LineHighlight.Script
