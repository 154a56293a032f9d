import LineHighlight.Proofs.Engine.Scripted
import LineHighlight.Proofs.Highlighter.Turns

/-! One line through a runtime that answers calls by a function: what the line's acquisition
and the answer to its call leave behind. -/

namespace LineHighlight

namespace Segments

variable {W C E : Type}

/-- A line for which there is no engine comes to nothing more. -/
theorem run_unavailable (s : Segments W C E) (limit : Option Nat) (mode : Mode) (line : String)
    {σ : System W E} {e : Error} (h : (s.loader.acquire σ).value = .error e) :
    (s.run limit mode line σ).value = .done (.error e) ∧
      (s.run limit mode line σ).world = (s.loader.acquire σ).world := by
  simp [run, h]

end Segments

/-- The call that a line makes. -/
def Mode.callOn (mode : Mode) (line : String) : RecordedCall :=
  .ofCall line mode.engineCall

namespace World

/-- The world after the time that a call takes. -/
def afterCall (w : World) (respond : Responder) (call : RecordedCall) : World :=
  { w with now := w.now + (respond w.scripted.asked call).delay }

/-- The world with a call that was asked. -/
def withAsked (w : World) (call : RecordedCall) : World :=
  { w with scripted := { w.scripted with asked := w.scripted.asked ++ [call] } }

/-- The world with a call that came to an answer. -/
def withCall (w : World) (call : RecordedCall) : World :=
  { w with
    scripted :=
      { w.scripted with
        asked := w.scripted.asked ++ [call]
        calls := if w.scripted.recording then w.scripted.calls ++ [call]
          else w.scripted.calls } }

/-- What a line leaves whose call panics in a system that the acquisition has left: the time that
the call took, the call with the runtime, and a mark on the engine's lock. -/
def afterPanic (respond : Responder) (call : RecordedCall) (τ : System World EngineRef) :
    System World EngineRef where
  loader := { τ.loader with engineLock := τ.loader.engineLock.poison }
  world := (τ.world.afterCall respond call).withAsked call

@[simp] theorem afterPanic_calls (respond : Responder) (call : RecordedCall)
    (τ : System World EngineRef) :
    (afterPanic respond call τ).world.scripted.calls = τ.world.scripted.calls := rfl

section Run

variable {respond : Responder} {read : Reading} {settings : EngineSettings}
  {σ τ : System World EngineRef} {handle : EngineHandle EngineRef}

theorem call_returned (read : Reading) (settings : EngineSettings)
    (handle : EngineHandle EngineRef) (mode : Mode) (line : String) {answer : Except Error Json}
    (hanswer : (respond τ.world.scripted.asked (mode.callOn line)).outcome = .returned answer) :
    ((answering respond read settings).call none mode line handle τ).value =
        .done (answer.bind EngineResult.ofAnswer) ∧
      ((answering respond read settings).call none mode line handle τ).world =
        ⟨τ.loader,
          (τ.world.afterCall respond (mode.callOn line)).withCall (mode.callOn line)⟩ := by
  rw [Mode.callOn] at hanswer
  simp [answering, respondingRuntime, Segments.call, Segments.finish, System.inWorld, Act.on,
    Runtime.on, Scripted.runtime, Scripted.start, Scripted.finish, Scripted.record, clock,
    afterCall, withCall, Mode.callOn, hanswer]
  rfl

theorem call_panicked (read : Reading) (settings : EngineSettings)
    (handle : EngineHandle EngineRef) (mode : Mode) (line : String) {reason : String}
    (hanswer : (respond τ.world.scripted.asked (mode.callOn line)).outcome = .panicked reason) :
    ((answering respond read settings).call none mode line handle τ).value = .panicked reason ∧
      ((answering respond read settings).call none mode line handle τ).world =
        ⟨τ.loader,
          (τ.world.afterCall respond (mode.callOn line)).withAsked (mode.callOn line)⟩ := by
  rw [Mode.callOn] at hanswer
  simp [answering, respondingRuntime, Segments.call, Segments.finish, System.inWorld, Act.on,
    Runtime.on, Scripted.runtime, Scripted.start, Scripted.finish, clock, afterCall, withAsked,
    Mode.callOn, hanswer]

theorem run_returned (mode : Mode) (line : String) {answer : Except Error Json}
    (hacquire : ((answering respond read settings).loader.acquire σ).value = .ok handle)
    (hτ : ((answering respond read settings).loader.acquire σ).world = τ)
    (hanswer : (respond τ.world.scripted.asked (mode.callOn line)).outcome =
      .returned answer) :
    ((answering respond read settings).run none mode line σ).value =
        .done (answer.bind EngineResult.ofAnswer) ∧
      ((answering respond read settings).run none mode line σ).world =
        ⟨τ.loader,
          (τ.world.afterCall respond (mode.callOn line)).withCall (mode.callOn line)⟩ := by
  subst hτ
  obtain ⟨hvalue, hworld⟩ := call_returned read settings handle mode line hanswer
  rw [← hworld]
  exact Segments.run_of_call_done hacquire hvalue

/-- A call that panics is asked and marks the engine's lock. -/
theorem run_panicked (mode : Mode) (line : String) {reason : String}
    (hacquire : ((answering respond read settings).loader.acquire σ).value = .ok handle)
    (hτ : ((answering respond read settings).loader.acquire σ).world = τ)
    (hanswer : (respond τ.world.scripted.asked (mode.callOn line)).outcome =
      .panicked reason) :
    ((answering respond read settings).run none mode line σ).value = .panicked reason ∧
      ((answering respond read settings).run none mode line σ).world =
        afterPanic respond (mode.callOn line) τ := by
  subst hτ
  obtain ⟨hvalue, hworld⟩ := call_panicked read settings handle mode line hanswer
  rw [Segments.run_of_acquire hacquire]
  simp only [hvalue, hworld]
  exact ⟨trivial, rfl⟩

end Run

end World

end LineHighlight
