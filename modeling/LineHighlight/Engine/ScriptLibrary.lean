import LineHighlight.Log

/-!
A script interpreter as a host program finds it.

What scripts are is left to a library. It makes runtimes, each with a heap that its limit bounds,
and a context in each; it runs scripts in them, and gives access to the values that scripts make.
Whatever may run code of a script on the way is an execution. It may fail, it takes its time, and
it may never end; a handler that it asks now and then can make it stop.
-/

namespace LineHighlight

/-- Tells a running script to stop, whenever it is asked from a moment on. -/
structure InterruptHandler where
  from? : Option Nat := none
deriving DecidableEq, Repr, Inhabited

namespace InterruptHandler

/-- A handler that stops no script. -/
def never : InterruptHandler := {}

/-- What the handler says at a moment. -/
def stops (h : InterruptHandler) (now : Nat) : Bool :=
  h.from?.any (· ≤ now)

end InterruptHandler

/-- How an execution ended: with a value or with the text of what was thrown, in which state of
the context, and how long it took. -/
structure Completion (S α : Type) where
  outcome : Except String α
  state : S
  took : Nat

/-- What an execution comes to under a handler, from a moment on, in a state of its context;
nothing if it never ends. -/
def Execution (S α : Type) := InterruptHandler → Nat → S → Option (Completion S α)

namespace Execution

variable {S α β : Type}

/-- An outcome that is there at once. -/
def ofExcept (outcome : Except String α) : Execution S α :=
  fun _ _ s => some ⟨outcome, s, 0⟩

/-- One execution after another, unless the first one fails. -/
def bind (x : Execution S α) (f : α → Execution S β) : Execution S β := fun handler now s =>
  match x handler now s with
  | none => none
  | some ⟨.error message, s, took⟩ => some ⟨.error message, s, took⟩
  | some ⟨.ok a, s, took⟩ =>
    (f a handler (now + took) s).map fun c => { c with took := took + c.took }

instance : Monad (Execution S) where
  pure a := ofExcept (.ok a)
  bind := bind

end Execution

/-- An interpreter with contexts in states `S` and script values `V`. A failure is the text that
the host reports for it. -/
structure ScriptLibrary (S V : Type) where
  /-- A new runtime, given how many were asked for before it. -/
  newRuntime : Nat → Except String S
  /-- Bounds the heap of a runtime, in bytes. -/
  setMemoryLimit : Nat → S → S
  /-- The context with all standard objects. -/
  newContext : S → Except String S
  /-- Runs a script. -/
  eval : String → Execution S Unit
  /-- The global object. -/
  globals : V
  /-- Reads a field, which may call a getter. -/
  field : V → String → Execution S V
  /-- The value as an object, or why it is none. -/
  object : V → Except String V
  /-- The value as a function, or why it is none. -/
  function : V → Except String V
  /-- Calls a function on `this`, with a text and perhaps with options. -/
  call : V → V → String → Option V → Execution S V
  /-- An object without fields of its own. -/
  newObject : Execution S V
  /-- Sets a field of an object, and gives the object to go on with. -/
  setField : V → String → V → Execution S V
  /-- `ToBoolean`. -/
  toBoolean : V → Bool
  /-- `ToInt32` of `ToNumber`. -/
  toInt32 : V → Execution S Int32
  ofBoolean : Bool → V
  ofInt32 : Int32 → V
  /-- `JSON.parse`. -/
  parse : String → Execution S V
  /-- `JSON.stringify`; nothing for a value that JSON cannot show. -/
  stringify : V → Execution S (Option V)
  /-- The text of a string. -/
  text : V → Execution S String

end LineHighlight
