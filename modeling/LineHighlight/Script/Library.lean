import LineHighlight.Engine.ScriptLibrary
import LineHighlight.Script.Realm
import LineHighlight.Text.Quoted

/-!
The library of payloads: an interpreter for the scripts that are described.
-/

namespace LineHighlight.Script

/-! ## Failures as texts -/

/-- Thrown doubles keep `.0` and leave positional notation below `1e-4` and from `1e16`. -/
def thrownFormat : NumberFormat where
  lowest := -4
  highest := 15
  keepPoint := true
  exponentDigits := 1
  exponentPlus := false
  nan := "NaN"
  infinity := "inf"
  signedZero := true

/-- The number of bytes that the text before the first surrogate that stands alone takes. -/
def validBytes (units : List Text.Unit16) : Nat :=
  let cs := (Text.scalars units).takeWhile Sum.isLeft
  (cs.map fun | .inl c => c.utf8Size | .inr _ => 0).foldl (· + ·) 0

/-- A thrown string, as it is shown: its text, or where it stops being one. -/
def thrownString (units : List Text.Unit16) : String :=
  match Text.ofUnits? units with
  | some s => "Ok(" ++ Text.quoted s ++ ")"
  | none =>
    s!"Err(Utf8(Utf8Error \x7b valid_up_to: {validBytes units}, error_len: Some(1) \x7d))"

/-- A thrown value, as it is shown. Of a big integer the last 64 bits are. -/
def thrownText : Value → String
  | .undefined | .throwing _ => "Undefined\"undefined\""
  | .null => "Null\"null\""
  | .boolean b => s!"Bool({b})"
  | .number x isInteger =>
    if isInteger then s!"Int({numberFormat.text x})" else s!"Float({thrownFormat.text x})"
  | .bigint n => s!"BigInt(Ok({Int.bmod n (Nat.pow 2 64)}))"
  | .symbol => "Symbol"
  | .string units => "String(" ++ thrownString units ++ ")"
  | _ => "Object"

/-- The wording of a failure. -/
def Failure.message : Failure → String
  | .error message => "Error: " ++ message
  | .thrown v => "Exception generated by quickjs: " ++ thrownText v
  | .wrongType actual wanted =>
    "Error converting from js '" ++ actual ++ "' into type '" ++ wanted ++ "'"

/-- A step of a script that leaves its realm alone. -/
def execution {α : Type} (x : Run α) : Execution Realm α :=
  .ofExcept (x.mapError Failure.message)

/-! ## What scripts hold -/

/-- What a script can get hold of: its own values, and the objects of its realm. -/
inductive Item where
  | value (v : Value)
  | globals
  /-- The object with methods under a name. -/
  | engine (name : String)
  /-- The object that was under a name from the start. -/
  | standard (name : String)
  /-- A method of the object under a name. -/
  | method (entry : String) (cs : List Case)

namespace Item

/-- What stands under a name on the global object. -/
def global (name : String) (r : Realm) : Item :=
  match r.target name with
  | .value v => .value v
  | .engine _ => .engine name
  | .standard => .standard name

/-- The member of an object with methods. -/
def member (entry name : String) (o : EngineObject) : Run Item :=
  match (o.members.find? fun m => m.1 == name).map Prod.snd with
  | none => .ok (.value .undefined)
  | some (.value v) => v.map .value
  | some (.cases cs) => .ok (.method entry cs)

/-- Reads a field. Of the standard objects only the global one has any. -/
def get (name : String) (r : Realm) : Item → Run Item
  | .value v => (v.get name).map .value
  | .globals => .ok (global name r)
  | .standard object => .ok (if object = "globalThis" then global name r else .value .undefined)
  | .engine entry =>
    match r.target entry with
    | .engine o => member entry name o
    | _ => .ok (.value .undefined)
  | .method _ _ => .ok (.value .undefined)

/-- The name of the item's type. -/
def typeName : Item → String
  | .value v => v.typeName
  | .method _ _ => "function"
  | _ => "object"

/-- Whether the item is an object. -/
def isObject : Item → Bool
  | .value v => v.isObject
  | _ => true

/-- Whether the item can be called. -/
def isFunction : Item → Bool
  | .value v => v.callResult?.isSome
  | .method _ _ => true
  | _ => false

/-- An item of a type that is wanted, or the refusal of any other. -/
def checked (holds : Item → Bool) (wanted : String) (i : Item) : Except String Item :=
  if holds i then .ok i else .error (Failure.wrongType i.typeName wanted).message

/-- The value of an item; nothing for an object of the realm. -/
def value? : Item → Option Value
  | .value v => some v
  | _ => none

/-- Carries out an action. One that never ends by itself ends when its handler says so. -/
def act (entry : String) (options : Option Value) (text : String) (a : Action) :
    Execution Realm Item := fun handler now r =>
  match r.perform entry options text a with
  | some (v, r) => some ⟨(v.map .value).mapError Failure.message, r, 0⟩
  | none =>
    handler.from?.map fun moment => ⟨.error (Failure.error "interrupted").message, r, moment - now⟩

/-- Calls a function. A method goes by the first of its cases that is for the call. -/
def call (text : String) (options : Option Value) : Item → Execution Realm Item
  | .value v =>
    execution ((v.callResult?.getD (.error (.error "not a function"))).map .value)
  | .method entry cs =>
    match cs.find? (Realm.caseHolds options text) with
    | some c => act entry options text c.action
    | none => pure (.value .undefined)
  | _ => execution (.error (.error "not a function"))

/-- Sets a field of an object that has none under the name in a parent. -/
def set (name : String) (i : Item) : Item → Item
  | .value (.record parent fields) =>
    .value (.record parent (Value.setField name (i.value?.getD .undefined) fields))
  | o => o

/-- A text as an item. -/
def ofText (s : String) : Item :=
  .value (.ofText s)

/-- The text of a string. -/
def text? : Item → Option String
  | .value (.string units) => Text.ofUnits? units
  | _ => none

end Item

/-! ## The library -/

/-- Runs a text as a payload. -/
def Realm.eval (source : String) : Execution Realm Unit := fun _ _ r =>
  match Payload.ofText? source with
  | none => some ⟨.error (Failure.error "variable name expected").message, r, 0⟩
  | some p =>
    let (outcome, r) := r.evaluate p
    some ⟨outcome.mapError Failure.message, r, 0⟩

/-- The memory, in bytes, in which no context fits. -/
def tooSmall : Nat := 10000

/-- Whether a context has room in a memory. A limit of zero is none. -/
def fits (memory : Nat) : Bool :=
  memory == 0 || tooSmall < memory

/-- The value that a JSON text reads as. -/
def parsed (text : String) : Run Value :=
  match Json.readWith Json.oneRounding text with
  | .ok v => .ok (.ofPlain v)
  | .error e => .error (.error e.message)

/-- The interpreter of payloads. -/
def library : ScriptLibrary Realm Item where
  newRuntime _ := .ok {}
  setMemoryLimit bytes r := { r with memory := some bytes }
  newContext r :=
    if r.memory.all fits then .ok r else .error "Allocation failed while creating object"
  eval := Realm.eval
  globals := .globals
  field i name := fun handler now r => execution (i.get name r) handler now r
  object := Item.checked Item.isObject "object"
  function := Item.checked Item.isFunction "function"
  call function _ text options := function.call text (options.bind Item.value?)
  newObject := pure (.value (.record .undefined []))
  setField object name i := pure (i.set name object)
  toBoolean i := (i.value?.map Value.toBoolean).getD true
  toInt32 i := execution ((i.value?.getD .undefined).toInt32.map Int32.ofInt)
  ofBoolean b := .value (.boolean b)
  ofInt32 n := .value (.ofDouble (Binary64.ofInt n.toInt))
  parse text := execution ((parsed text).map Item.value)
  stringify i := execution ((i.value?.getD .undefined).toJson.map (Option.map Item.ofText))
  text i := .ofExcept (i.text?.elim (.error (Failure.wrongType i.typeName "string").message) .ok)

end LineHighlight.Script
