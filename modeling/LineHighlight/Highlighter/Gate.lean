import LineHighlight.Highlighter.Request

/-!
Requests that run at the same time and take turns at a gate.

A request takes the gate when it is free, does its lines one by one, and gives the gate back.
Between any two of these steps every other request may try to make one.
-/

namespace LineHighlight

/-- A request, with the time from which on its lines are late, if there is one. -/
structure TimedRequest where
  text : String
  mode : Mode
  deadline : Option Nat := none

namespace TimedRequest

/-- Whether a line that is started at a moment is late. -/
def isLate (r : TimedRequest) (now : Nat) : Bool :=
  r.deadline.any (· ≤ now)

/-- The readings of a request after one more line. Without a deadline there are none. -/
def see (r : TimedRequest) (now : Nat) (seen : List Nat) : List Nat :=
  match r.deadline with
  | none => seen
  | some _ => seen ++ [now]

end TimedRequest

/-- The request that holds the gate, with what the clock showed it so far. -/
structure Working (ι : Type) where
  id : ι
  seen : List Nat := []
  before : Progress := {}
  rest : List String

/-- The gate, for one request at a time. -/
inductive Gate (ι : Type) where
  | free
  | held (w : Working ι)
  /-- The holder waits for a call that never ends. -/
  | stuck (id : ι)

/-- The request that holds the gate. -/
def Gate.holder? {ι : Type} : Gate ι → Option ι
  | free => none
  | held w => some w.id
  | stuck id => some id

/-- A request that has given the gate back. -/
structure Served (ι E : Type) where
  id : ι
  seen : List Nat
  outcome : RequestRun E HighlightResult

/-- What the requests share. -/
structure Shared (ι W E : Type) where
  system : System W E
  gate : Gate ι := .free
  /-- The requests that took the gate, in their order. -/
  order : List ι := []
  served : List (Served ι E) := []

namespace Segments

variable {ι W C E : Type}

/-- The next step of the request that holds the gate: its next line, or the end. -/
def proceed (s : Segments W C E) (r : TimedRequest) (w : Working ι) (now : Nat)
    (c : Shared ι W E) : Shared ι W E :=
  match w.rest with
  | [] =>
    { c with gate := .free, served := c.served ++ [⟨w.id, w.seen, .finished w.before.result⟩] }
  | line :: rest =>
    let w' := { w with seen := r.see now w.seen, rest := rest }
    if r.isLate now then
      { c with gate := .held { w' with before := w.before.skip line } }
    else
      let ran := s.run none r.mode line c.system
      match ran.value with
      | .done outcome =>
        { c with
          system := ran.world
          gate := .held { w' with before := w.before.record line outcome } }
      | .panicked reason =>
        { c with
          system := ran.world
          gate := .free
          served := c.served ++ [⟨w.id, w'.seen, .panicked reason⟩] }
      | .waiting _ _ => { c with system := ran.world, gate := .stuck w.id }

variable [DecidableEq ι]

/-- A step of a request at a moment. A request takes the gate once, and does nothing while
another one holds it. -/
def step (s : Segments W C E) (requests : ι → TimedRequest) (c : Shared ι W E) (move : ι × Nat) :
    Shared ι W E :=
  match c.gate with
  | .free =>
    if move.1 ∈ c.order then c
    else
      { c with
        gate := .held { id := move.1, rest := Text.lines (requests move.1).text }
        order := c.order ++ [move.1] }
  | .held w => if w.id = move.1 then s.proceed (requests w.id) w move.2 c else c
  | .stuck _ => c

/-- Steps of requests, one after another. -/
def interleave (s : Segments W C E) (requests : ι → TimedRequest) (moves : List (ι × Nat))
    (c : Shared ι W E) : Shared ι W E :=
  moves.foldl (s.step requests) c

end Segments

end LineHighlight
