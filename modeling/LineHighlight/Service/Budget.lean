import LineHighlight.Highlighter.Request
import LineHighlight.Text.Duration

/-!
Requests within a budget of time.

A caller waits no longer than the budget of its request. When the time is over the caller gets
its text back unmarked; the request itself goes on until the call that it is in has ended, and
then keeps its other lines, since its deadline is the end of the same budget. Requests take
turns at a lock, the gate: one that finds another at work waits for its turn, on its own budget.
-/

namespace LineHighlight

/-- A request whose caller has gone and whose call is still running. -/
structure Straggler (E : Type) where
  mode : Mode
  deadline : Nat
  before : Progress
  line : String
  rest : List String
  handle : EngineHandle E
  /-- When the call will end, if ever. -/
  wake : Option Nat

/-- A request whose caller has gone before its turn came. -/
structure Abandoned where
  text : String
  mode : Mode
  deadline : Nat
deriving DecidableEq, Repr

/-- A system with the requests that are still in it. -/
structure ServiceState (W E : Type) where
  system : System W E
  straggler : Option (Straggler E) := none
  /-- The requests behind the straggler, in their order. -/
  queue : List Abandoned := []
  /-- The lock of the request that is at work. -/
  gate : Lock := {}

/-- What a service works with. -/
structure Service (W C E : Type) where
  segments : Segments W C E
  /-- The time that a caller waits, in milliseconds. -/
  budget : Nat

namespace ServiceState

variable {W E α : Type}

/-- An action on the system. -/
def inSystem (x : Act (System W E) α) : Act (ServiceState W E) α :=
  x.on ServiceState.system fun s system => { s with system := system }

/-- An action on the world. -/
def inWorld (x : Act W α) : Act (ServiceState W E) α :=
  inSystem (System.inWorld x)

/-- Changes the gate. -/
def modifyGate (f : Lock → Lock) : Act (ServiceState W E) Unit :=
  Act.modify fun s => { s with gate := f s.gate }

/-- A request at the gate, which it keeps until it has come to an end. -/
def atGate (x : Act (System W E) (RequestRun E α)) : Act (ServiceState W E) (RequestRun E α) := do
  let s ← Act.get
  modifyGate fun gate => Lock.taken gate.take
  let r ← inSystem x
  modifyGate fun _ => s.gate.after r.hold
  return r

@[simp] theorem atGate_value (x : Act (System W E) (RequestRun E α)) (σ : ServiceState W E) :
    (atGate x σ).value = (x σ.system).value := rfl

end ServiceState

namespace Service

variable {W C E : Type}

/-- The time now. -/
def now (s : Service W C E) : Act (ServiceState W E) Nat :=
  ServiceState.inWorld s.segments.clock.read

/-- Lets time pass up to a moment. -/
def waitUntil (s : Service W C E) (moment : Nat) : Act (ServiceState W E) Unit := do
  let now ← s.now
  ServiceState.inWorld (s.segments.clock.wait (moment - now))

/-- Runs the requests whose turn never came. All their lines are late. -/
def runAbandoned (s : Service W C E) : List Abandoned → Act (ServiceState W E) Unit
  | [] => return ()
  | a :: rest => do
    let _ ← ServiceState.atGate (s.segments.highlightUntil a.text a.mode a.deadline)
    runAbandoned s rest

/-- Ends the straggler's call, the rest of its request, and the requests behind it. The straggler
has held the gate all the time. -/
def endStraggler (s : Service W C E) (st : Straggler E) : Act (ServiceState W E) Unit := do
  let state ← Act.get
  Act.modify fun state => { state with straggler := none, queue := [] }
  ServiceState.modifyGate Lock.release
  let _ ← ServiceState.atGate
    (s.segments.resume (some st.deadline) st.mode st.before st.line st.rest st.handle)
  s.runAbandoned state.queue

/-- Lets time pass up to a moment, with what ends on the way. -/
def passUntil (s : Service W C E) (moment : Nat) : Act (ServiceState W E) Unit := do
  let state ← Act.get
  match state.straggler with
  | some st =>
    match st.wake with
    | some wake =>
      if wake ≤ moment then
        s.waitUntil wake
        s.endStraggler st
    | none => pure ()
  | none => pure ()
  s.waitUntil moment

/-- Lets a time pass. -/
def pass (s : Service W C E) (duration : Nat) : Act (ServiceState W E) Unit := do
  let now ← s.now
  s.passUntil (now + duration)

/-- Waits until no request is at work. A call that never ends is not waited for. -/
def settle (s : Service W C E) : Act (ServiceState W E) Unit := do
  let state ← Act.get
  match state.straggler.bind Straggler.wake with
  | some wake => s.passUntil wake
  | none => return ()

/-- Tells that the caller has gone, and what it got. -/
def giveUp (s : Service W C E) (text : String) : Act (ServiceState W E) HighlightResult := do
  Act.log .warn ("Highlight timed out after " ++ Text.duration s.budget ++
    ", returning unhighlighted text")
  return HighlightResult.unhighlighted text

/-- Runs a request whose turn has come. -/
def takeTurn (s : Service W C E) (text : String) (mode : Mode) (deadline : Nat) :
    Act (ServiceState W E) HighlightResult := do
  match ← ServiceState.atGate (s.segments.request (some deadline) (some deadline) text mode) with
  | .finished result => return result
  | .panicked reason =>
    Act.log .error ("Highlight task failed: task panicked with message " ++ Text.quoted reason)
    return HighlightResult.unhighlighted text
  | .waiting before line rest handle wake =>
    Act.modify fun state =>
      { state with straggler := some ⟨mode, deadline, before, line, rest, handle, wake⟩ }
    s.waitUntil deadline
    s.giveUp text

/-- Highlights a text within the budget. -/
def highlightText (s : Service W C E) (text : String) (mode : Mode) :
    Act (ServiceState W E) HighlightResult := do
  let start ← s.now
  let deadline := start + s.budget
  let state ← Act.get
  match state.straggler with
  | some st =>
    if st.wake.any (· < deadline) then
      s.settle
      s.takeTurn text mode deadline
    else
      Act.modify fun state => { state with queue := state.queue ++ [⟨text, mode, deadline⟩] }
      s.waitUntil deadline
      s.giveUp text
  | none =>
    if s.budget = 0 then
      let result ← s.giveUp text
      s.runAbandoned [⟨text, mode, deadline⟩]
      return result
    else s.takeTurn text mode deadline

end Service

end LineHighlight
