import LineHighlight.Engine.Loader
import LineHighlight.Result

/-!
One line through the engine.

A line acquires the engine, takes its lock, starts the call that its mode asks for, and decodes
the answer when the call has ended. Whatever goes wrong on the way is logged and is the line's
outcome.
-/

namespace LineHighlight

/-- What can happen to a line. -/
inductive LineRun (E : Type) where
  | done (outcome : Except Error EngineResult)
  | panicked (reason : String)
  /-- The call has been started and will end at the time given, if ever. -/
  | waiting (handle : EngineHandle E) (wake : Option Nat)

/-- How far a line has come with its call. -/
def LineRun.hold {E : Type} : LineRun E → Hold
  | .done _ => .ended
  | .panicked _ => .panicked
  | .waiting _ _ => .pending

/-- What lines are run with. -/
structure Segments (W C E : Type) where
  loader : Loader W C E
  clock : Clock W

namespace Segments

variable {W C E : Type}

/-- Logs the failure of a line: loudly if there was no engine to call. -/
def logFailure (mode : Mode) (e : Error) : Act (System W E) Unit :=
  if e.isInitialization then
    Act.log .warn ("Engine unavailable for segment: " ++ e.message)
  else
    Act.log .debug s!"Segment highlight failed ({mode.logText}): {e.message}"

/-- A line's outcome, with its failure logged. -/
def settle (mode : Mode) (outcome : Except Error EngineResult) : Act (System W E) (LineRun E) := do
  match outcome with
  | .error e => logFailure mode e
  | .ok _ => pure ()
  return .done outcome

/-- Ends a line's call and decodes its answer. -/
def finish (s : Segments W C E) (mode : Mode) (line : String) (handle : EngineHandle E) :
    Act (System W E) (LineRun E) := do
  match ← System.inWorld (s.loader.runtime.finish handle.engine mode.engineCall line) with
  | .panicked reason => return .panicked reason
  | .returned answer => settle mode (answer.bind EngineResult.ofAnswer)

/-- Makes a line's call. One that would not end before the limit is left waiting. -/
def call (s : Segments W C E) (limit : Option Nat) (mode : Mode) (line : String)
    (handle : EngineHandle E) : Act (System W E) (LineRun E) := do
  match ← System.inWorld (s.loader.runtime.start handle.engine mode.engineCall line) with
  | none => return .waiting handle none
  | some duration =>
    match limit with
    | none =>
      System.inWorld (s.clock.wait duration)
      s.finish mode line handle
    | some limit =>
      let now ← System.inWorld s.clock.read
      if now + duration < limit then
        System.inWorld (s.clock.wait duration)
        s.finish mode line handle
      else
        return .waiting handle (some (now + duration))

/-- Runs a line. -/
def run (s : Segments W C E) (limit : Option Nat) (mode : Mode) (line : String) :
    Act (System W E) (LineRun E) := do
  match ← s.loader.acquire with
  | .error e => settle mode (.error e)
  | .ok handle => System.withEngine LineRun.hold (s.call limit mode line handle)

end Segments

end LineHighlight
