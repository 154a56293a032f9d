import LineHighlight.Error
import LineHighlight.Json.Value
import LineHighlight.Log
import LineHighlight.Mode

/-!
What the loader needs of a script runtime, a bundle and a clock.

Contexts and engines are references; all that can change is in the world `W`. A call of an
engine starts, takes its time, and takes effect at the end. It may also never end, and it may
panic, which ends the request that made it.
-/

namespace LineHighlight

/-- How a call that ends comes out. -/
inductive Outcome (α : Type) where
  | returned (a : α)
  | panicked (reason : String)
deriving DecidableEq, Repr

/-- A script runtime with contexts `C` and engines `E` in a world `W`. -/
structure Runtime (W C E : Type) where
  /-- The name in the log. -/
  name : String
  /-- A new empty context. -/
  createContext : Act W (Except Error C)
  /-- Runs a script in a context. A script that fails may have had effects before. -/
  evaluate : C → String → Act W (Except Error Unit)
  /-- The engine that a context exposes under the name of its entry point. -/
  intoEngine : C → String → Act W (Except Error E)
  /-- Starts a call on a text; gives the time that the call will take, or nothing if it will
  never end. -/
  start : E → EngineCall → String → Act W (Option Nat)
  /-- Ends a call that was started and has taken its time. -/
  finish : E → EngineCall → String → Act W (Outcome (Except Error Json))

/-- A runtime on a part of a larger world. -/
def Runtime.on {V W C E : Type} (part : V → W) (put : V → W → V) (r : Runtime W C E) :
    Runtime V C E where
  name := r.name
  createContext := r.createContext.on part put
  evaluate context source := (r.evaluate context source).on part put
  intoEngine context entryPoint := (r.intoEngine context entryPoint).on part put
  start engine call text := (r.start engine call text).on part put
  finish engine call text := (r.finish engine call text).on part put

/-- An engine: the object under a name in a context. -/
structure EngineRef where
  context : Nat
  entryPoint : String
deriving DecidableEq, Repr, Inhabited

/-- Where the payload comes from. -/
structure Bundle (W : Type) where
  /-- The text of the resource with a name and an extension. -/
  load : String → String → Act W (Except Error String)

/-- A clock in a world, in milliseconds. -/
structure Clock (W : Type) where
  /-- The time now. -/
  read : Act W Nat
  /-- Lets time pass. -/
  wait : Nat → Act W Unit

/-- The options of a call with a grammar; the flag is there only when it is set. -/
def grammarOptions (grammar : String) (ignoreIllegals : Bool) : Json :=
  .object (("language", .string grammar) ::
    if ignoreIllegals then [("ignoreIllegals", .boolean true)] else [])

end LineHighlight
