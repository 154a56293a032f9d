import LineHighlight.Number.Literal
import LineHighlight.Script.Value

/-!
Conversions of script values: to a boolean, a number, a 32-bit integer and a text.

Primitive values convert by themselves. An object is first made primitive by its methods
`valueOf` and `toString`, in this order for a number and in the other for a text; a method that
gives an object is passed over.
-/

namespace LineHighlight.Script

open Text (Unit16)

/-- How scripts write a number: positional from `1e-6` to below `1e21`, and the exponent with
its sign otherwise. -/
def numberFormat : NumberFormat where
  lowest := -6
  highest := 20
  keepPoint := false
  exponentDigits := 1
  exponentPlus := true
  nan := "NaN"
  infinity := "Infinity"
  signedZero := false

namespace Value

/-- The truth of a value. -/
def toBoolean : Value → Bool
  | .undefined | .null => false
  | .boolean b => b
  | .number .nan _ => false
  | .number x _ => !x.isZero
  | .bigint n => n != 0
  | .string units => !units.isEmpty
  | _ => true

/-- The two methods that make an object primitive. -/
inductive Method where
  | valueOf
  | toString
deriving DecidableEq, Repr

/-- The name of a method. -/
def Method.name : Method → String
  | .valueOf => "valueOf"
  | .toString => "toString"

/-- The root of an object's chain of parents, which decides its built-in methods. -/
def root : Value → Value
  | .record parent _ => if parent.isObject || parent matches .null then parent.root else .undefined
  | .cyclic inner => inner.root
  | v => v

/-- The name of the kind of a boxed value in the refusal of a foreign object. -/
def boxedName : Value → String
  | .number _ _ => "not a number"
  | .boolean _ => "not a boolean"
  | .string _ => "not a string"
  | .bigint _ => "not a BigInt"
  | _ => "not a symbol"

/-- Whether an object is itself the root of its chain. -/
def isRoot : Value → Bool
  | .record _ _ => false
  | .cyclic inner => inner.isRoot
  | _ => true

/-- What a text conversion gives for a plain object. -/
def objectText : Value :=
  .ofText "[object Object]"

/-- What a text conversion gives for a function. -/
def functionText : Value :=
  .ofText "function () \x7b\n\x7d"

/-- The texts of elements with commas between them. -/
def joined : List (List Unit16) → List Unit16
  | [] => []
  | [s] => s
  | s :: rest => s ++ UInt16.ofNat 44 :: joined rest

mutual

/-- The text of a value. The fuel bounds the depth of the value. -/
def textAt : Nat → Value → Run (List Unit16)
  | 0, _ => .ok []
  | fuel + 1, v => do
    match ← primitiveAt fuel [.toString, .valueOf] v with
    | .undefined => .ok (Text.units "undefined")
    | .null => .ok (Text.units "null")
    | .boolean b => .ok (Text.units (if b then "true" else "false"))
    | .number x _ => .ok (Text.units (numberFormat.text x))
    | .bigint n => .ok (Text.units (toString n))
    | .string units => .ok units
    | _ => .error (.error "cannot convert symbol to string")

/-- The primitive that a list of methods makes of a value. -/
def primitiveAt : Nat → List Method → Value → Run Value
  | 0, _, _ => .ok .undefined
  | fuel + 1, methods, v =>
    if !v.isObject then .ok v
    else
      match v.root, methods with
      | .boxed .symbol, _ => .ok .symbol
      | _, [] => .error (.error "toPrimitive")
      | _, m :: rest => do
        match ← callAt fuel m v with
        | some result => if result.isObject then primitiveAt fuel rest v else .ok result
        | none => primitiveAt fuel rest v

/-- Calls a method of an object; nothing if there is no such method. -/
def callAt : Nat → Method → Value → Run (Option Value)
  | 0, _, _ => .ok none
  | fuel + 1, m, v =>
    match v.find m.name with
    | some method => do
      let method ← method.settle
      match method.callResult? with
      | some result => result.map some
      | none => .ok none
    | none =>
      match v.root, m with
      | .null, _ => .ok none
      | .array items, .toString => do
        let texts ← elementsAt fuel items
        .ok (some (.string (joined texts)))
      | .function _, .toString =>
        if v.isRoot then .ok (some functionText) else .error (.error "not a function")
      | .boxed inner, _ =>
        if v.isRoot then .ok (some inner) else .error (.error (boxedName inner))
      | _, .toString => .ok (some objectText)
      | _, .valueOf => .ok (some v)

/-- The texts of the elements of an array, where nothing is an empty text. -/
def elementsAt : Nat → List Value → Run (List (List Unit16))
  | 0, _ => .ok []
  | _, [] => .ok []
  | fuel + 1, v :: rest => do
    let text ← match v with
      | .undefined | .null => .ok []
      | v => textAt fuel v
    let texts ← elementsAt fuel rest
    .ok (text :: texts)

end

/-- The number of a value that is no object. -/
def primitiveNumber : Value → Run Binary64
  | .undefined => .ok .nan
  | .null => .ok (Binary64.zero false)
  | .boolean b => .ok (Binary64.ofInt (if b then 1 else 0))
  | .number x _ => .ok x
  | .string units =>
    match Text.ofUnits? units with
    | some s => .ok (Numeral.script s)
    | none => .ok .nan
  | .bigint _ => .error (.error "cannot convert BigInt to number")
  | _ => .error (.error "cannot convert symbol to number")

/-- Enough fuel for the conversion of a value: a few steps for each of its parts. -/
def fuelFor (v : Value) : Nat :=
  8 * v.size + 16

/-- The primitive of a value where a number is wanted. -/
def toPrimitive (v : Value) : Run Value :=
  primitiveAt v.fuelFor [.valueOf, .toString] v

/-- The number of a value. -/
def toNumber (v : Value) : Run Binary64 := do
  primitiveNumber (← v.toPrimitive)

/-- The value as a signed 32-bit integer. -/
def toInt32 (v : Value) : Run Int := do
  let x ← v.toNumber
  .ok x.toInt32

end Value

end LineHighlight.Script
