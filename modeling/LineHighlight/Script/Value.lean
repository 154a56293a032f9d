import LineHighlight.Json.Value
import LineHighlight.Number.Shortest
import LineHighlight.Text.Quoted
import LineHighlight.Text.Utf16

/-!
Values of a script.

Only what a payload can make is here: the functions among them ignore their arguments and give a
fixed value. An object knows its own fields and its parent, where a field is looked for next.
-/

namespace LineHighlight.Script

open Text (Unit16)

/-- A value. -/
inductive Value where
  | undefined
  | null
  | boolean (b : Bool)
  /-- A double, and whether it is held as an integer of 32 bits. -/
  | number (x : Binary64) (isInteger : Bool)
  | bigint (n : Int)
  | symbol
  | string (units : List Unit16)
  | array (items : List Value)
  /-- A function that gives the same value whenever it is called, or throws an error if that
  value is `throwing`. -/
  | function (result : Value)
  /-- The object of a primitive value. -/
  | boxed (inner : Value)
  /-- An object with fields of its own. The parent `undefined` stands for the one that objects
  have by default, `null` for none. -/
  | record (parent : Value) (fields : List (String × Value))
  /-- An object that also holds itself, in `_top` and in a list in `_list`. -/
  | cyclic (inner : Value)
  /-- A field whose reading throws an error. -/
  | throwing (message : String)
deriving Inhabited

/-- Why a script or a conversion failed. -/
inductive Failure where
  /-- An error with a message was thrown. -/
  | error (message : String)
  /-- Some other value was thrown. -/
  | thrown (v : Value)
  /-- A value of one type stands where another is needed. -/
  | wrongType (actual wanted : String)

/-- What a step of a script gives. -/
abbrev Run (α : Type) := Except Failure α

/-- A text as a value. -/
def Value.ofText (s : String) : Value :=
  .string (Text.units s)

namespace Value

/-- Whether the value is an object. -/
def isObject : Value → Bool
  | .array _ | .function _ | .boxed _ | .record _ _ | .cyclic _ => true
  | _ => false

/-- Whether the double is an integer of 32 bits. Zero is one, negative zero is not. -/
def isInt32 : Binary64 → Bool
  | .finite negative 0 _ => !negative
  | x => match x.truncate? with
    | some n => Binary64.ofInt n == x && -2147483648 ≤ n && n ≤ 2147483647
    | none => false

/-- A number that was computed: held as an integer if it is one of 32 bits. -/
def ofDouble (x : Binary64) : Value :=
  .number x (isInt32 x)

/-- A number that a script spells out. The least integer of 32 bits is spelled as the negative
of a number that is none, and is held as a double. -/
def ofLiteral (x : Binary64) : Value :=
  .number x (isInt32 x && x != Binary64.ofInt (-2147483648))

/-- The name of the value's type. -/
def typeName : Value → String
  | .undefined | .throwing _ => "undefined"
  | .null => "null"
  | .boolean _ => "bool"
  | .number _ isInteger => if isInteger then "int" else "float"
  | .bigint _ => "big_int"
  | .symbol => "symbol"
  | .string _ => "string"
  | .array _ => "array"
  | .function _ => "function"
  | .boxed _ | .record _ _ => "object"
  | .cyclic inner => inner.typeName

/-- What reading a field or calling a function comes to when this value is there. -/
def settle : Value → Run Value
  | .throwing message => .error (.error message)
  | v => .ok v

/-- What calling the value gives, if it is a function. -/
def callResult? : Value → Option (Run Value)
  | .function result | .cyclic (.function result) => some result.settle
  | _ => none

/-- The value of the first field with a name. -/
def lookup (name : String) : List (String × Value) → Option Value
  | [] => none
  | (k, v) :: rest => if k = name then some v else lookup name rest

/-- The field of an object, its own or a parent's. -/
def find (name : String) : Value → Option Value
  | .record parent fields =>
    match lookup name fields with
    | some v => some v
    | none => parent.find name
  | .cyclic inner =>
    if name = "_top" then some (.cyclic inner)
    else if name = "_list" then some (.array [.cyclic inner])
    else inner.find name
  | _ => none

/-- Reads a field. A field that is not there reads as `undefined`. -/
def get (name : String) (v : Value) : Run Value :=
  ((v.find name).getD .undefined).settle

mutual

/-- The value that a script has for a JSON value. -/
def ofPlain : Json → Value
  | .null => .null
  | .boolean b => .boolean b
  | .number n => .ofDouble n.toBinary64
  | .string s => .ofText s
  | .array items => .array (ofPlainItems items)
  | .object fields => .record .undefined (ofPlainFields fields)

/-- The elements of an array, as a script has them. -/
def ofPlainItems : List Json → List Value
  | [] => []
  | v :: rest => ofPlain v :: ofPlainItems rest

/-- The fields of an object, as a script has them. -/
def ofPlainFields : List (String × Json) → List (String × Value)
  | [] => []
  | (name, v) :: rest => (name, ofPlain v) :: ofPlainFields rest

end

mutual

/-- A bound on the steps that converting a value takes. -/
def size : Value → Nat
  | .array items => sizeItems items + 1
  | .function result => result.size + 1
  | .boxed inner | .cyclic inner => inner.size + 1
  | .record parent fields => parent.size + sizeFields fields + 1
  | _ => 1

/-- The sizes of all elements. -/
def sizeItems : List Value → Nat
  | [] => 0
  | v :: rest => v.size + sizeItems rest + 1

/-- The sizes of all fields. -/
def sizeFields : List (String × Value) → Nat
  | [] => 0
  | (_, v) :: rest => v.size + sizeFields rest + 1

end

end Value

end LineHighlight.Script
