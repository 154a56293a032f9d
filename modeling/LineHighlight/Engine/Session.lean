import LineHighlight.Engine.Interpreter

/-!
The use of one context, from its making on.

Payloads are run in a context before it exposes an engine. Then calls are made, one at a time. A
call takes its time, and other things happen in the world meanwhile: time passes, and other
contexts are made and used.
-/

namespace LineHighlight

/-- A call that runs in a context. -/
structure RunningCall (S : Type) where
  call : EngineCall
  text : String
  since : Nat
  /-- The state in which the call found the context. -/
  found : S

/-- A call that has come to an end. -/
structure EndedCall (S : Type) where
  started : RunningCall S
  endedAt : Nat
  outcome : Outcome (Except Error Json)

/-- What a context is being used for. -/
inductive Phase (S : Type) where
  | loading
  | idle
  | running (r : RunningCall S)

/-- The use of a context so far. -/
structure Session (S : Type) where
  world : World S
  phase : Phase S := .loading
  /-- The calls that have ended, oldest first. -/
  ended : List (EndedCall S) := []

/-- What else happens in a world while a context is left alone. -/
structure World.Aside {S : Type} [Inhabited S] (n : Nat) (w w' : World S) : Prop where
  context_eq : w'.context n = w.context n
  now_le : w.now ≤ w'.now

namespace ScriptLibrary

variable {S V : Type} [Inhabited S] (lib : ScriptLibrary S V)

/-- Makes a call: starts it, gives it its time and ends it. Nothing comes of one that never
ends. -/
def invoke (engine : EngineRef) (call : EngineCall) (text : String) :
    Act (World S) (Option (Outcome (Except Error Json))) := do
  match ← lib.start engine call text with
  | none => return none
  | some duration =>
    World.clock.wait duration
    return some (← lib.finish engine call text)

/-- The next thing that happens in the context of an engine. -/
inductive Step (engine : EngineRef) : Session S → Session S → Prop
  | evaluate (w : World S) (source : String) :
      Step engine { world := w } { world := (lib.evaluate engine.context source w).world }
  | expose (w : World S)
      (h : (lib.intoEngine engine.context engine.entryPoint w).value = .ok engine) :
      Step engine { world := w }
        { world := (lib.intoEngine engine.context engine.entryPoint w).world, phase := .idle }
  | start (w : World S) (ended : List (EndedCall S)) (call : EngineCall) (text : String) :
      Step engine ⟨w, .idle, ended⟩
        ⟨(lib.start engine call text w).world,
          .running ⟨call, text, w.now, (w.context engine.context).state⟩, ended⟩
  | finish (w : World S) (ended : List (EndedCall S)) (r : RunningCall S)
      (c : Completion S (Option String)) (hruns : lib.running engine r.call r.text w = some c)
      (hends : r.since + c.took ≤ w.now) :
      Step engine ⟨w, .running r, ended⟩
        ⟨(lib.finish engine r.call r.text w).world, .idle,
          ended ++ [⟨r, w.now, (lib.finish engine r.call r.text w).value⟩]⟩
  | elsewhere (w w' : World S) (phase : Phase S) (ended : List (EndedCall S))
      (h : w.Aside engine.context w') :
      Step engine ⟨w, phase, ended⟩ ⟨w', phase, ended⟩

/-- Everything that may happen in the context, one thing after another. -/
inductive Reaches (engine : EngineRef) (s : Session S) : Session S → Prop
  | refl : Reaches engine s s
  | step {t u : Session S} (h : Reaches engine s t) (hstep : lib.Step engine t u) :
      Reaches engine s u

end ScriptLibrary

end LineHighlight
