import LineHighlight.Script.Name
import LineHighlight.Script.Stringify

/-!
A context in which payloads are run and methods are called.

A realm holds what scripts have declared so far. The entry point is looked up by its name on the
global object every time, so a script that replaces or deletes it is seen by the next call.
-/

namespace LineHighlight.Script

/-- An object with methods, as a payload makes it. -/
structure EngineObject where
  members : List (String × Method)
  /-- How often its counting methods were called. -/
  count : Nat := 0

/-- What a field of the global object holds. -/
inductive Binding where
  | value (v : Value)
  | engine (o : EngineObject)
  /-- An object that was there from the start. -/
  | standard

/-- A field of the global object. Those that `var` made cannot be deleted. -/
structure Global where
  name : String
  binding : Binding
  isDeletable : Bool := true
  isWritable : Bool := true

/-- The names under which a global object has objects from the start. -/
def standardNames : List String :=
  ["Object", "Function", "Error", "EvalError", "RangeError", "ReferenceError", "SyntaxError",
    "TypeError", "URIError", "InternalError", "AggregateError", "Array", "parseInt", "parseFloat",
    "isNaN", "isFinite", "decodeURI", "decodeURIComponent", "encodeURI", "encodeURIComponent",
    "escape", "unescape", "Number", "Boolean", "String", "Symbol", "Math", "Reflect", "eval",
    "globalThis", "BigInt", "Date", "RegExp", "JSON", "Proxy", "Map", "Set", "WeakMap", "WeakSet",
    "ArrayBuffer", "SharedArrayBuffer", "Uint8ClampedArray", "Int8Array", "Uint8Array",
    "Int16Array", "Uint16Array", "Int32Array", "Uint32Array", "BigInt64Array", "BigUint64Array",
    "Float16Array", "Float32Array", "Float64Array", "DataView", "Atomics", "Promise", "WeakRef",
    "FinalizationRegistry", "Iterator", "performance", "queueMicrotask"]

/-- The fields of a global object from the start. Three of them are fixed. -/
def standardGlobals : List Global :=
  ⟨"undefined", .value .undefined, false, false⟩ ::
    ⟨"NaN", .value (.ofDouble .nan), false, false⟩ ::
    ⟨"Infinity", .value (.ofDouble (.infinite false)), false, false⟩ ::
    standardNames.map fun name => { name, binding := .standard }

/-- The names under which every object finds objects with its parent. -/
def inheritedNames : List String :=
  ["constructor", "toString", "valueOf", "hasOwnProperty", "isPrototypeOf",
    "propertyIsEnumerable", "toLocaleString", "__proto__", "__defineGetter__",
    "__defineSetter__", "__lookupGetter__", "__lookupSetter__"]

/-- A context. -/
structure Realm where
  globals : List Global := standardGlobals
  /-- What was made the parent of the global object. -/
  parent : Binding := .standard
  /-- The names of the declarations that are not fields of the global object. -/
  lexicals : List String := []
  /-- The memory that the context may take, in bytes. -/
  memory : Option Nat := none

instance : Inhabited Realm where
  default := {}

namespace Realm

/-- The global object's own field with a name. -/
def find? (r : Realm) (name : String) : Option Global :=
  r.globals.find? fun g => g.name == name

/-- What the parent of the global object has under a name. -/
def inherited (r : Realm) (name : String) : Binding :=
  match r.parent with
  | .value v =>
    match v.find name with
    | some field => .value field
    | none =>
      if v.root matches .null || !inheritedNames.contains name then .value .undefined
      else if name = "__proto__" then r.parent
      else .standard
  | b =>
    if name = "__proto__" then b
    else if inheritedNames.contains name then .standard
    else .value .undefined

/-- What stands under a name on the global object. -/
def target (r : Realm) (name : String) : Binding :=
  ((r.find? name).map Global.binding).getD (r.inherited name)

/-- Whether a name leads scripts to the object that stood under it from the start. -/
def isStandard (r : Realm) (name : String) : Bool :=
  !r.lexicals.contains name && match r.target name with
    | .standard => true
    | _ => false

/-- Changes what the own field with a name holds. -/
def modify (r : Realm) (name : String) (f : Binding → Binding) : Realm :=
  { r with
    globals := r.globals.map fun g =>
      if g.name = name then { g with binding := f g.binding } else g }

/-- Sets a field of the global object, under its name as a variable. -/
def set (r : Realm) (name : String) (b : Binding) : Run Realm :=
  match r.find? name with
  | some g =>
    if g.isWritable then .ok (r.modify name fun _ => b)
    else .error (.error ("'" ++ name ++ "' is read-only"))
  | none => .ok { r with globals := r.globals ++ [{ name, binding := b }] }

/-- Makes an object, or nothing, the parent of the global object. -/
def setParent (r : Realm) : Binding → Realm
  | .value v => if v.isObject || v matches .null then { r with parent := .value v } else r
  | b => { r with parent := b }

/-- Sets a field of the object that scripts take for the global one. -/
def assign (r : Realm) (name : String) (b : Binding) : Run Realm :=
  if !r.isStandard "globalThis" then .ok r
  else if name = "__proto__" && (r.find? name).isNone then .ok (r.setParent b)
  else r.set name b

/-- Deletes a field of the object that scripts take for the global one. -/
def delete (r : Realm) (name : String) : Run Realm :=
  if !r.isStandard "globalThis" then .ok r
  else
    match r.find? name with
    | some g =>
      if g.isDeletable then .ok { r with globals := r.globals.filter fun h => h.name != name }
      else .error (.error "could not delete property")
    | none => .ok r

/-- Changes the object with methods under a name. -/
def modifyEngine (r : Realm) (name : String) (f : EngineObject → EngineObject) : Realm :=
  let change : Binding → Binding
    | .engine o => .engine (f o)
    | b => b
  if (r.find? name).isSome then r.modify name change else { r with parent := change r.parent }

/-! ## Running a payload -/

/-- Why a declaration cannot be made in a realm, if it cannot. -/
def clash? (r : Realm) (p : Payload) : Option String :=
  let isTaken : Bool := match p.declaration with
    | .var => r.lexicals.contains p.variable
    | .let | .const =>
      r.lexicals.contains p.variable || (r.find? p.variable).any fun g => !g.isDeletable
    | .global | .none => false
  if isTaken then some ("redeclaration of '" ++ p.variable ++ "'") else none

/-- Why a payload cannot be run at all, if it cannot. -/
def refusal? (r : Realm) (p : Payload) : Option String :=
  if p.isBroken then some "variable name expected"
  else
    match p.declaration with
    | .global | .none => none
    | d => (nameFault? d p.variable).or (r.clash? p)

/-- What a script declares before it runs: a `var` is there, undefined, from the start. -/
def hoist (r : Realm) (p : Payload) : Realm :=
  match p.declaration with
  | .var =>
    if (r.find? p.variable).isSome then r
    else { r with globals := r.globals ++ [⟨p.variable, .value .undefined, false, true⟩] }
  | .let | .const => { r with lexicals := r.lexicals ++ [p.variable] }
  | .global | .none => r

/-- What the entry point is bound to. Members that are no functions are made first. -/
def bindingOf : EntryObject → Run Binding
  | .value v => v.map .value
  | .methods members => do
    members.forM fun
      | (_, .value v) => v.map fun _ => ()
      | (_, .cases _) => .ok ()
    .ok (.engine { members := members })

/-- Makes the entry point. -/
def bind (r : Realm) (p : Payload) : Run Realm :=
  match p.declaration with
  | .var => do r.set p.variable (← bindingOf p.object)
  | .global => do r.assign p.entry (← bindingOf p.object)
  | .let | .const => do
    let _ ← bindingOf p.object
    .ok r
  | .none => .ok r

/-- What throwing an error with a message comes to: the error is made by whatever stands under
its name. -/
def thrownError (r : Realm) (message : String) : Failure :=
  .error (if r.isStandard "Error" then message else "not a constructor")

/-- Throws an error with a message, if there is one. -/
def throwAny (r : Realm) : Option String → Run Unit
  | some message => .error (r.thrownError message)
  | none => .ok ()

/-- Runs a payload: what it gives, and the realm after it. -/
def evaluate (r : Realm) (p : Payload) : Run Unit × Realm :=
  match r.refusal? p with
  | some message => (.error (.error message), r)
  | none =>
    let r := r.hoist p
    match (r.throwAny p.throwBefore).bind fun _ => r.bind p with
    | .error e => (.error e, r)
    | .ok r => (r.throwAny p.throwAfter, r)

/-! ## Calling a method -/

/-- The language that options name. -/
def languageIn (options : Option Value) : Option (List Text.Unit16) :=
  match options.bind (Value.find "language") with
  | some (.string units) => some units
  | _ => none

/-- Whether options ask to go on past illegal syntax. -/
def ignoresIllegals (options : Option Value) : Bool :=
  match options.bind (Value.find "ignoreIllegals") with
  | some (.boolean b) => b
  | _ => false

/-- Whether a case is for a call. -/
def caseHolds (options : Option Value) (text : String) (c : Case) : Bool :=
  (c.text.all fun t => t == text) && (c.contains.all fun part => Text.contains text part) &&
    (c.language.all fun l => languageIn options == some (Text.units l))

/-- A result with a value, a language and a relevance. -/
def answer (value language : Value) (relevance : Nat) (rest : List (String × Value)) : Value :=
  .record .undefined ([("value", value), ("language", language),
    ("relevance", .ofDouble (Binary64.ofInt relevance))] ++ rest)

/-- A list that shows the arguments of a call: how many there are, the text, and the options with
their type. -/
def argumentList (options : Option Value) (text : String) : Value :=
  match options with
  | none => .array [.ofDouble (Binary64.ofInt 1), .ofText text, .ofText "undefined", .null]
  | some o => .array [.ofDouble (Binary64.ofInt 2), .ofText text, .ofText "object", o]

/-- The number of 16-bit units of a text. -/
def unitCount (text : String) : Nat :=
  (Text.units text).length

/-- The text marked up as a whole. -/
def wrapped (options : Option Value) (text : String) : Value :=
  let language := (languageIn options).getD (Text.units "plaintext")
  answer
    (.string (Text.units "<span class=\"hljs-" ++ language ++
      Text.units ("\">" ++ text ++ "</span>")))
    (.string language) (unitCount text)
    [("illegal", .boolean (Text.contains text "@@" && !ignoresIllegals options))]

/-- What the object does that replaces an entry point. -/
def renewedObject : EngineObject where
  members := [("highlightAuto", .cases [{ action := .renewed }])]

/-- Carries out an action: what the function gives, and the realm after it. Nothing comes of an
action that never ends. -/
def perform (r : Realm) (entry : String) (options : Option Value) (text : String) :
    Action → Option (Run Value × Realm)
  | .giveBack v => some (v, r)
  | .throwValue v =>
    match v with
    | .ok v => some (.error (.thrown v), r)
    | .error e => some (.error e, r)
  | .throwError message => some (.error (r.thrownError message), r)
  | .args =>
    if !r.isStandard "JSON" then some (.error (.error "not a function"), r)
    else
      match (argumentList options text).toJson with
      | .ok s =>
        some (.ok (answer (.ofText (s.getD "")) (.ofText "args") (unitCount text)
          [("illegal", .boolean false)]), r)
      | .error e => some (.error e, r)
  | .wrap => some (.ok (wrapped options text), r)
  | .counter =>
    let n := match r.target entry with
      | .engine o => o.count + 1
      | _ => 1
    some (.ok (answer (.ofText s!"n={n}") (.ofText "counter") n
      [("illegal", .boolean (n % 2 == 0))]), r.modifyEngine entry fun o => { o with count := n })
  | .deleteEntry =>
    match r.delete entry with
    | .ok r => some (.ok (answer (.ofText "deleted") (.ofText "x") 1 []), r)
    | .error e => some (.error e, r)
  | .replaceEntry =>
    match r.assign entry (.engine renewedObject) with
    | .ok r => some (.ok (answer (.ofText "old") (.ofText "x") 1 []), r)
    | .error e => some (.error e, r)
  | .renewed => some (.ok (answer (.ofText ("new:" ++ text)) (.ofText "y") 2 []), r)
  | .recurse => some (.error (.error "Maximum call stack size exceeded"), r)
  | .hang => none

end Realm

end LineHighlight.Script
