import LineHighlight.Script.Library
import LineHighlight.Text.Duration
import LineHighlight.World

/-!
The runtime that runs scripts.

Every context has an interpreter of its own. Of the object that a call returns only four fields
leave the interpreter: they are copied into a new object, two of them coerced, and that object is
handed over as JSON text. A call may have a limit. While it runs, and only then, the slot of its
context's deadline holds the moment at which it is to be stopped; to run a payload has no limit.
-/

namespace LineHighlight

/-- What scripts are held to. -/
structure ScriptLimits where
  /-- The memory that a context may take, in bytes. -/
  memory : Option Nat := none
  /-- The time that a call may take, in milliseconds. -/
  callTime : Option Nat := none
deriving DecidableEq, Repr, Inhabited

/-- A limit in a log. -/
def ScriptLimits.shown (text : Nat → String) : Option Nat → String
  | some n => "Some(" ++ text n ++ ")"
  | none => "None"

namespace EngineCall

/-- The name of an engine's method for a call. -/
def methodName : EngineCall → String
  | .auto => "highlightAuto"
  | .grammar _ _ => "highlight"

/-- The options that are handed over for a call, as JSON text. A call without a grammar has
none. -/
def optionsText : EngineCall → Option String
  | .auto => none
  | .grammar name ignoreIllegals => some (grammarOptions name ignoreIllegals).compact

/-- Decodes the JSON text of a call's result. -/
def decode (call : EngineCall) : Option String → Except Error Json
  | none =>
    .error (.malformedEngineResponse (call.methodName ++ " returned a non-serializable value"))
  | some text =>
    match Json.read text with
    | .ok v => .ok v
    | .error e => .error (.serialization e.message)

end EngineCall

namespace ScriptLibrary

variable {S V : Type} (lib : ScriptLibrary S V)

/-! ## Calls -/

/-- The object under a name on the global object. -/
def target (entryPoint : String) : Execution S V := do
  let value ← lib.field lib.globals entryPoint
  .ofExcept (lib.object value)

/-- Calls the method for a call: what the function returns. -/
def callFunction (entryPoint : String) (call : EngineCall) (text : String) : Execution S V := do
  let target ← lib.target entryPoint
  let method ← lib.field target call.methodName
  let function ← .ofExcept (lib.function method)
  match call.optionsText with
  | none => lib.call function target text none
  | some options =>
    let options ← lib.parse options
    lib.call function target text (some options)

/-- A new object with the four fields of a result, two of them coerced. Everything else that the
result holds stays behind. -/
def contractFields (result : V) : Execution S V := do
  let fields ← lib.newObject
  let value ← lib.field result "value"
  let fields ← lib.setField fields "value" value
  let language ← lib.field result "language"
  let fields ← lib.setField fields "language" language
  let illegal ← lib.field result "illegal"
  let relevance ← lib.field result "relevance"
  let number ← lib.toInt32 relevance
  let fields ← lib.setField fields "illegal" (lib.ofBoolean (lib.toBoolean illegal))
  lib.setField fields "relevance" (lib.ofInt32 number)

/-- The JSON text of a value; nothing for a value that JSON cannot show. -/
def jsonText (shown : V) : Execution S (Option String) := do
  match ← lib.stringify shown with
  | some json => do
    let text ← lib.text json
    return some text
  | none => return none

/-- The JSON text of a result: of its four fields if it is an object. -/
def resultText (result : V) : Execution S (Option String) := do
  let shown ← match lib.object result with
    | .ok object => lib.contractFields object
    | .error _ => pure result
  lib.jsonText shown

/-- Calls the method for a call: the JSON text of its result. -/
def callMethod (entryPoint : String) (call : EngineCall) (text : String) :
    Execution S (Option String) := do
  let result ← lib.callFunction entryPoint call text
  lib.resultText result

/-! ## The runtime -/

/-- The runtime of a context, bounded before anything is put into it. -/
def boundedRuntime (limits : ScriptLimits) (before : Nat) : Except String S := do
  let runtime ← lib.newRuntime before
  match limits.memory with
  | some bytes => return lib.setMemoryLimit bytes runtime
  | none => return runtime

/-- Makes a context with an interpreter of its own. Its deadline is watched if calls have a
limit. -/
def createContext (limits : ScriptLimits) : Act (World S) (Except Error Nat) := do
  let w ← Act.get
  Act.modify fun w => { w with runtimes := w.runtimes + 1 }
  match lib.boundedRuntime limits w.runtimes >>= lib.newContext with
  | .error message => return .error (.contextCreationFailed message)
  | .ok state =>
    Act.log .debug ("QuickJS context created (memory limit: " ++
      ScriptLimits.shown toString limits.memory ++ ", call timeout: " ++
      ScriptLimits.shown Text.duration limits.callTime ++ ")")
    let context : ScriptContext S :=
      { state, deadline := { timeout := limits.callTime }, isWatched := limits.callTime.isSome }
    Act.modify fun w => { w with contexts := w.contexts ++ [context] }
    return .ok w.contexts.length

variable [Inhabited S]

/-- Runs a payload in a context. Whoever runs one that never ends waits for ever; it counts as one
that fails. -/
def evaluate (context : Nat) (source : String) : Act (World S) (Except Error Unit) := do
  match ← World.execute context (lib.eval source) with
  | some outcome => return outcome.mapError .engine
  | none => return .error (.engine "the script does not end")

/-- The object that a context exposes under a name. -/
def intoEngine (context : Nat) (entryPoint : String) :
    Act (World S) (Except Error EngineRef) := do
  match ← World.execute context (lib.target entryPoint) with
  | some (.ok _) => return .ok ⟨context, entryPoint⟩
  | _ => return .error (.entryPointNotFound entryPoint)

/-- What the call that runs in a context comes to. -/
def running (engine : EngineRef) (call : EngineCall) (text : String) (w : World S) :
    Option (Completion S (Option String)) :=
  let c := w.context engine.context
  lib.callMethod engine.entryPoint call text c.handler (c.since.getD w.now) c.state

/-- Starts a call: arms the deadline, and gives how long the call will run. -/
def start (engine : EngineRef) (call : EngineCall) (text : String) :
    Act (World S) (Option Nat) := do
  let w ← Act.get
  World.setContext engine.context ((w.context engine.context).enter w.now)
  let w ← Act.get
  return (lib.running engine call text w).map Completion.took

/-- Ends a call that was started and has taken its time: disarms the deadline, and decodes what
the call has come to. -/
def finish (engine : EngineRef) (call : EngineCall) (text : String) :
    Act (World S) (Outcome (Except Error Json)) := do
  let w ← Act.get
  let c := w.context engine.context
  match lib.running engine call text w with
  | none => return .panicked "a call was ended that never ends"
  | some ended =>
    World.setContext engine.context (c.leave ended.state)
    match ended.outcome with
    | .ok json => return .returned (call.decode json)
    | .error message =>
      if c.deadline.isExpired w.now then
        Act.log .warn (call.methodName ++ " interrupted after " ++
          Text.duration (c.deadline.timeout.getD 0))
      return .returned (.error (.engine message))

/-- The runtime that runs scripts with a library. -/
def runtime (limits : ScriptLimits) : Runtime (World S) Nat EngineRef where
  name := "quickjs"
  createContext := lib.createContext limits
  evaluate := lib.evaluate
  intoEngine := lib.intoEngine
  start := lib.start
  finish := lib.finish

end ScriptLibrary

/-- The runtime that runs payloads. -/
def Interpreter.runtime (limits : ScriptLimits) : Runtime World Nat EngineRef :=
  Script.library.runtime limits

end LineHighlight
