import LineHighlight.Number.Binary64

/-!
JSON values.

A number keeps whether it was written as an integer, since a typed reader tells `5` from `5.0`.
An object is its fields in the order in which their keys first came up.
-/

namespace LineHighlight

/-- A number. Integers lie between `-2 ^ 63` and `2 ^ 64 - 1`; all other numbers are doubles. -/
inductive JsonNumber where
  | integer (n : Int)
  | double (x : Binary64)
deriving DecidableEq, Repr, Inhabited

/-- The double nearest to the number. -/
def JsonNumber.toBinary64 : JsonNumber → Binary64
  | .integer n => Binary64.ofInt n
  | .double x => x

/-- A JSON value. -/
inductive Json where
  | null
  | boolean (b : Bool)
  | number (n : JsonNumber)
  | string (s : String)
  | array (items : List Json)
  | object (fields : List (String × Json))
deriving Repr, Inhabited

namespace Json

/-- An integer as a value. -/
def int (n : Int) : Json :=
  .number (.integer n)

/-- A natural number as a value. -/
def nat (n : Nat) : Json :=
  .number (.integer n)

/-- The value of the first field with the key. -/
def lookup (key : String) : List (String × Json) → Option Json
  | [] => none
  | (k, v) :: rest => if k = key then some v else lookup key rest

/-- Sets a field: in its place if the key is there, at the end if not. -/
def insert (key : String) (value : Json) : List (String × Json) → List (String × Json)
  | [] => [(key, value)]
  | (k, v) :: rest => if k = key then (k, value) :: rest else (k, v) :: insert key value rest

/-- The field of an object; nothing for a missing field or a value of another kind. -/
def field? (key : String) : Json → Option Json
  | .object fields => lookup key fields
  | _ => none

/-- The name of the kind of a value. -/
def kind : Json → String
  | .null => "null"
  | .boolean _ => "boolean"
  | .number _ => "number"
  | .string _ => "string"
  | .array _ => "array"
  | .object _ => "object"

@[simp] theorem lookup_nil (key : String) : lookup key [] = none := rfl

@[simp] theorem lookup_insert_self (key : String) (v : Json) (fields : List (String × Json)) :
    lookup key (insert key v fields) = some v := by
  induction fields with
  | nil => simp [insert, lookup]
  | cons p rest ih =>
      obtain ⟨k, w⟩ := p
      by_cases h : k = key <;> simp [insert, lookup, h, ih]

theorem lookup_insert_of_ne {key other : String} (h : other ≠ key) (v : Json)
    (fields : List (String × Json)) :
    lookup key (insert other v fields) = lookup key fields := by
  induction fields with
  | nil => simp [insert, lookup, h]
  | cons p rest ih =>
      obtain ⟨k, w⟩ := p
      by_cases hk : k = other
      · subst hk
        simp [insert, lookup, h]
      · by_cases hk' : k = key
        · subst hk'
          simp [insert, lookup, hk]
        · simp [insert, lookup, hk, hk', ih]

end Json

end LineHighlight
