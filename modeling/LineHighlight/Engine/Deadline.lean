import LineHighlight.Engine.ScriptLibrary

/-!
Contexts of scripts, and the deadline of the call that runs in one.

A deadline has a slot that holds the moment at which the running call is to be stopped. The
interrupt handler of the context looks into the slot whenever it is asked.
-/

namespace LineHighlight

/-- The deadline of calls. -/
structure CallDeadline where
  /-- The time that a call may take, in milliseconds. -/
  timeout : Option Nat := none
  /-- The slot. -/
  expiresAt : Option Nat := none
deriving DecidableEq, Repr, Inhabited

namespace CallDeadline

/-- Fills the slot for a call that starts now. Calls without a limit leave it alone. -/
def arm (d : CallDeadline) (now : Nat) : CallDeadline :=
  match d.timeout with
  | some timeout => { d with expiresAt := some (now + timeout) }
  | none => d

/-- Empties the slot. -/
def disarm (d : CallDeadline) : CallDeadline :=
  { d with expiresAt := none }

/-- Whether the moment in the slot has come. -/
def isExpired (d : CallDeadline) (now : Nat) : Bool :=
  d.expiresAt.any (· ≤ now)

end CallDeadline

/-- A context with its interpreter. -/
structure ScriptContext (S : Type) where
  state : S
  deadline : CallDeadline := {}
  /-- Whether an interrupt handler that watches the deadline is installed. -/
  isWatched : Bool := false
  /-- When the call that runs was started. -/
  since : Option Nat := none
deriving Inhabited

namespace ScriptContext

variable {S : Type}

/-- What the context asks whether to go on: the deadline, if it is watched. -/
def handler (c : ScriptContext S) : InterruptHandler :=
  if c.isWatched then { from? := c.deadline.expiresAt } else .never

/-- The context with a call that starts now. -/
def enter (c : ScriptContext S) (now : Nat) : ScriptContext S :=
  { c with deadline := c.deadline.arm now, since := some now }

/-- The context after its call, in the state that the call has left. -/
def leave (c : ScriptContext S) (state : S) : ScriptContext S :=
  { c with state, deadline := c.deadline.disarm, since := none }

/-- A handler answers as the deadline does. -/
theorem handler_stops (c : ScriptContext S) (now : Nat) :
    c.handler.stops now = (c.isWatched && c.deadline.isExpired now) := by
  cases h : c.isWatched <;>
    simp [handler, h, InterruptHandler.stops, InterruptHandler.never, CallDeadline.isExpired]

end ScriptContext

end LineHighlight
