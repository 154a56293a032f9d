import LineHighlight.Json.Reader
import LineHighlight.Script.Convert

/-!
Scripts, as they are described.

The only scripts that are run are payloads: a script that may throw, may leave an object under
the name of its entry point, and may throw again. It is written as a JSON object that says what
the methods of that object do. An object with a `$` describes a value that JSON has not got.
-/

namespace LineHighlight.Script

open Text (Unit16)

/-- How the entry point is declared. -/
inductive Declaration where
  | var
  | let
  | const
  /-- As a field of the global object. -/
  | global
  | none
deriving DecidableEq, Repr

/-- What a method does in one of its cases. -/
inductive Action where
  | giveBack (v : Run Value)
  | throwValue (v : Run Value)
  | throwError (message : String)
  /-- Shows the arguments. -/
  | args
  /-- Marks up the text as a whole. -/
  | wrap
  /-- Counts its calls. -/
  | counter
  | deleteEntry
  | replaceEntry
  /-- What the object does that replaces the entry point. -/
  | renewed
  | hang
  | recurse

/-- A case of a method: conditions, each of which may be missing, and what is done. -/
structure Case where
  text : Option String := none
  contains : Option String := none
  language : Option String := none
  action : Action

/-- A method of the entry point. -/
inductive Method where
  | value (v : Run Value)
  | cases (cs : List Case)

/-- What the entry point is. -/
inductive EntryObject where
  | value (v : Run Value)
  | methods (members : List (String × Method))

/-- A payload. -/
structure Payload where
  entry : String
  declaration : Declaration
  object : EntryObject
  throwBefore : Option String
  throwAfter : Option String
  /-- Whether the script cannot be run at all. -/
  isBroken : Bool

/-- The entry point's name as that of a variable: blanks around it are not part of it. -/
def Payload.variable (p : Payload) : String :=
  Text.trimBy Text.isScriptBlank p.entry

/-! ## Values -/

namespace Value

/-- The message of an error that is made of a value. A value without a text makes another
error, with a message of its own. -/
def errorMessage (v : Value) : String :=
  match v, v.textAt v.fuelFor with
  | .undefined, _ => ""
  | _, .ok units => (Text.ofUnits? units).getD ""
  | _, .error (.error message) => message
  | _, .error _ => ""

/-- The unit of a number. -/
def describedUnit : Value → Unit16
  | .number x _ => UInt16.ofNat ((x.truncate?.getD 0) % 65536).toNat
  | _ => 0

/-- The number that a constructor of numbers makes. A number stays as it is held, and the number
of a big integer is always held as a double. -/
def numberOf (v : Value) : Run Value := do
  match ← v.toPrimitive with
  | .number x isInteger => .ok (.number x isInteger)
  | .bigint n => .ok (.number (Binary64.ofInt n) false)
  | p => do
    let x ← p.primitiveNumber
    .ok (ofDouble x)

/-- The big integer of a double without a fraction. -/
def bigintOfDouble (x : Binary64) : Run Value :=
  match x.truncate? with
  | none => .error (.error "cannot convert NaN or Infinity to BigInt")
  | some n =>
    if x.isZero || Binary64.ofInt n == x then .ok (.bigint n)
    else .error (.error "cannot convert to BigInt: not an integer")

/-- The big integer that a constructor of big integers makes. -/
def bigintOf (v : Value) : Run Value := do
  match ← v.toPrimitive with
  | .bigint n => .ok (.bigint n)
  | .number x _ => bigintOfDouble x
  | .boolean b => .ok (.bigint (if b then 1 else 0))
  | .string units =>
    match (Text.ofUnits? units).bind Numeral.integer? with
    | some n => .ok (.bigint n)
    | none => .error (.error "invalid BigInt literal")
  | _ => .error (.error "cannot convert to BigInt")

/-- The object of a value: a new one for a primitive. -/
def objectOf (v : Value) : Value :=
  match v with
  | .undefined | .null => .record .undefined []
  | v => if v.isObject then v else .boxed v

/-- Ties a value to itself. Only an object has room for its own fields, and a field that throws
when it is read cannot be set. -/
def cyclicOf (v : Value) : Run Value :=
  match v with
  | .undefined | .throwing _ => .error (.error "cannot set property '_top' of undefined")
  | .null => .error (.error "cannot set property '_top' of null")
  | .cyclic inner => .ok (.cyclic inner)
  | v =>
    if !v.isObject then .error (.error "not an object")
    else if (v.find "_top").any isThrowing || (v.find "_list").any isThrowing then
      .error (.error "no setter for property")
    else .ok (.cyclic v)
where
  isThrowing : Value → Bool
    | .throwing _ => true
    | _ => false

/-- A function that gives a value which is made anew at every call. -/
def maker : Run Value → Value
  | .ok v => .function v
  | .error (.error message) => .function (.throwing message)
  | .error _ => .function .undefined

/-- The value of a kind that JSON has not got, made from its argument. -/
def made (kind : String) (v : Value) : Run Value :=
  match kind with
  | "number" => v.numberOf
  | "bigint" => v.bigintOf
  | "units" =>
    match v with
    | .array items => .ok (.string (items.map describedUnit))
    | _ => .ok (.string [])
  | "boxed" => .ok v.objectOf
  | "inherit" =>
    if v.isObject || v matches .null then .ok (.record v [])
    else .error (.error "not a prototype")
  | "cyclic" => v.cyclicOf
  | "getter_throws" => .ok (.throwing v.errorMessage)
  | _ => .ok .undefined

/-- The value of a kind that JSON has not got, with its argument, which not all kinds need. -/
def special (kind : String) (v : Run Value) : Run Value :=
  match kind with
  | "undefined" => .ok .undefined
  | "symbol" => .ok .symbol
  | "function" => .ok (.function .undefined)
  | "valueof" => .ok (.record .undefined [("valueOf", maker v)])
  | "tojson" => .ok (.record .undefined [("toJSON", maker v)])
  | kind => do made kind (← v)

/-- The text of a field that is a string. -/
def stringField (name : String) (fields : List (String × Json)) : Option String :=
  match Json.lookup name fields with
  | some (.string s) => some s
  | _ => none

mutual

/-- The value that a JSON value describes. -/
def ofJson : Json → Run Value
  | .null => .ok .null
  | .boolean b => .ok (.boolean b)
  | .number n => .ok (ofLiteral n.toBinary64)
  | .string s => .ok (.ofText s)
  | .array items => do
    let values ← ofItems items
    .ok (.array values)
  | .object fields =>
    match stringField "$" fields with
    | some kind => special kind (((ofFields fields).lookup "v").getD (.ok .undefined))
    | none => do
      let values ← (ofFields fields).mapM fun f => f.2.map fun v => (f.1, v)
      .ok (.record .undefined values)

/-- The values of elements. -/
def ofItems : List Json → Run (List Value)
  | [] => .ok []
  | v :: rest => do
    let value ← ofJson v
    let values ← ofItems rest
    .ok (value :: values)

/-- The values of fields. -/
def ofFields : List (String × Json) → List (String × Run Value)
  | [] => []
  | (name, v) :: rest => (name, ofJson v) :: ofFields rest

end

end Value

/-! ## Methods -/

namespace Action

/-- The actions that are described by a word. -/
def words : List (String × Action) :=
  [("args", .args), ("wrap", .wrap), ("counter", .counter), ("delete_entry", .deleteEntry),
    ("replace_entry", .replaceEntry), ("hang", .hang), ("recurse", .recurse)]

/-- The action that does nothing. -/
def nothing : Action :=
  .giveBack (.ok .undefined)

/-- The action that a JSON value describes. -/
def ofJson : Json → Action
  | .string word => ((words.find? fun p => p.1 == word).map Prod.snd).getD nothing
  | .object fields =>
    match Json.lookup "return" fields, Json.lookup "throw" fields,
      Value.stringField "throw_error" fields with
    | some v, _, _ => .giveBack (Value.ofJson v)
    | _, some v, _ => .throwValue (Value.ofJson v)
    | _, _, some message => .throwError message
    | _, _, _ => nothing
  | _ => nothing

end Action

namespace Method

/-- The case that a JSON value describes. -/
def caseOfJson (v : Json) : Case :=
  let fields := match v with
    | .object fields => fields
    | _ => []
  { text := Value.stringField "text" fields
    contains := Value.stringField "contains" fields
    language := Value.stringField "language" fields
    action := ((Json.lookup "do" fields).map Action.ofJson).getD Action.nothing }

/-- The method that a JSON value describes. -/
def ofJson (v : Json) : Method :=
  match v.field? "cases", v.field? "value" with
  | some (.array items), _ => .cases (items.map caseOfJson)
  | _, some content => .value (Value.ofJson content)
  | _, _ => .value (.ok .undefined)

end Method

namespace Payload

/-- The declarations by their words. -/
def declarationOf : Option String → Declaration
  | some "let" => .let
  | some "const" => .const
  | some "global" => .global
  | some "none" => .none
  | _ => .var

/-- The two methods of an entry point that a payload describes. -/
def members (fields : List (String × Json)) : List (String × Method) :=
  ["highlightAuto", "highlight"].filterMap fun name =>
    (Json.lookup name fields).map fun v => (name, Method.ofJson v)

/-- The payload that a JSON value describes. -/
def ofJson? : Json → Option Payload
  | .object fields =>
    some {
      entry := (Value.stringField "entry" fields).getD "hljs"
      declaration := declarationOf (Value.stringField "declare" fields)
      object :=
        match Json.lookup "entry_value" fields with
        | some v => .value (Value.ofJson v)
        | none => .methods (members fields)
      throwBefore := Value.stringField "throw_before" fields
      throwAfter := Value.stringField "throw_after" fields
      isBroken := match Json.lookup "syntax_error" fields with
        | some (.boolean b) => b
        | _ => false }
  | _ => none

/-- A payload that does nothing. -/
def idle : Payload where
  entry := ""
  declaration := .none
  object := .methods []
  throwBefore := none
  throwAfter := none
  isBroken := false

/-- The words that declare a variable. -/
def declarators : List (String × Declaration) :=
  [("var", .var), ("let", .let), ("const", .const)]

/-- The payload of a script that declares an empty object as a variable, and does nothing more. -/
def emptyObject? (source : String) : Option Payload :=
  match (source.splitOn " ").filter (· ≠ "") with
  | [word, name, "=", "\x7b\x7d"] | [word, name, "=", "\x7b\x7d;"] =>
    (declarators.lookup word).map fun d => { idle with entry := name, declaration := d }
  | _ => none

/-- The payload of a text: one that is described, or a script that states no more than a number
or declares an empty object. -/
def ofText? (source : String) : Option Payload :=
  if (Text.trimBy Text.isScriptBlank source).toList.all Char.isDigit then some idle
  else
    match Json.readWith Json.oneRounding source with
    | .ok v => ofJson? v
    | .error _ => emptyObject? source

end Payload

end LineHighlight.Script
