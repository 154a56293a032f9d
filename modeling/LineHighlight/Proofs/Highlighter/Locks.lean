import LineHighlight.Highlighter.Request
import LineHighlight.Proofs.Engine.Acquisition

/-! The engine's lock around the call of a line.
A call reaches the world and not the loader, so the lock makes no difference to it. When the call
has ended the lock is what it was before, and when it panicked the lock is marked. The loader's lock
is given back before a call begins. -/

namespace LineHighlight

namespace System

variable {W E α β : Type}

/-- A system in which the engine's lock is in a state. -/
def withEngineLock (σ : System W E) (lock : Lock) : System W E :=
  { σ with loader := { σ.loader with engineLock := lock } }

/-- An action that is one on the world. -/
def IsOuter (x : Act (System W E) α) : Prop :=
  ∃ y, x = inWorld y

theorem isOuter_inWorld (y : Act W α) : IsOuter (E := E) (inWorld y) :=
  ⟨y, rfl⟩

theorem isOuter_pure (a : α) : IsOuter (pure a : Act (System W E) α) :=
  ⟨pure a, rfl⟩

theorem isOuter_log (level : LogLevel) (message : String) :
    IsOuter (Act.log level message : Act (System W E) Unit) :=
  ⟨Act.log level message, rfl⟩

theorem IsOuter.bind {x : Act (System W E) α} {f : α → Act (System W E) β} (hx : IsOuter x)
    (hf : ∀ a, IsOuter (f a)) : IsOuter (x >>= f) := by
  obtain ⟨y, rfl⟩ := hx
  have hrest : f = fun a => inWorld (hf a).choose := funext fun a => (hf a).choose_spec
  rw [hrest]
  exact ⟨y >>= fun a => (hf a).choose, rfl⟩

theorem IsOuter.loader_eq {x : Act (System W E) α} (h : IsOuter x) (σ : System W E) :
    (x σ).world.loader = σ.loader := by
  obtain ⟨y, rfl⟩ := h
  rfl

/-- Under the engine's lock an action on the world does what it does without. -/
theorem IsOuter.withEngine {x : Act (System W E) α} (h : IsOuter x) (progress : α → Hold)
    (σ : System W E) :
    System.withEngine progress x σ =
      ⟨(x σ).value,
        (x σ).world.withEngineLock (σ.loader.engineLock.after (progress (x σ).value)),
        (x σ).logs⟩ := by
  obtain ⟨y, rfl⟩ := h
  simp [System.withEngine, modifyLoader, withEngineLock, inWorld, Act.on]

/-- A lock that is given back is as it was. -/
theorem IsOuter.withEngine_of_ended {x : Act (System W E) α} (h : IsOuter x)
    {progress : α → Hold} {σ : System W E} (hended : progress (x σ).value = .ended) :
    System.withEngine progress x σ = x σ := by
  rw [h.withEngine, hended]
  obtain ⟨y, rfl⟩ := h
  rfl

end System

namespace Segments

variable {W C E : Type} (s : Segments W C E) (limit : Option Nat) (mode : Mode) (line : String)
  (handle : EngineHandle E)

theorem isOuter_settle (outcome : Except Error EngineResult) :
    System.IsOuter (settle mode outcome : Act (System W E) (LineRun E)) := by
  cases outcome with
  | ok r => exact System.isOuter_pure _
  | error e =>
      simp only [settle, logFailure]
      split
      · exact (System.isOuter_log _ _).bind fun _ => System.isOuter_pure _
      · exact (System.isOuter_log _ _).bind fun _ => System.isOuter_pure _

theorem isOuter_finish : System.IsOuter (s.finish mode line handle) := by
  refine (System.isOuter_inWorld _).bind fun ended => ?_
  cases ended with
  | panicked reason => exact System.isOuter_pure _
  | returned answer => exact isOuter_settle mode _

theorem isOuter_call : System.IsOuter (s.call limit mode line handle) := by
  refine (System.isOuter_inWorld _).bind fun started => ?_
  cases started with
  | none => exact System.isOuter_pure _
  | some duration =>
      cases limit with
      | none => exact (System.isOuter_inWorld _).bind fun _ => s.isOuter_finish mode line handle
      | some limit =>
          refine (System.isOuter_inWorld _).bind fun now => ?_
          split
          · exact (System.isOuter_inWorld _).bind fun _ => s.isOuter_finish mode line handle
          · exact System.isOuter_pure _

variable {s limit mode line handle}

/-- A line with an engine comes to what its call comes to. -/
theorem run_of_acquire {σ : System W E} (h : (s.loader.acquire σ).value = .ok handle) :
    s.run limit mode line σ =
      let τ := (s.loader.acquire σ).world
      let called := s.call limit mode line handle τ
      ⟨called.value, called.world.withEngineLock (τ.loader.engineLock.after called.value.hold),
        (s.loader.acquire σ).logs ++ called.logs⟩ := by
  simp [run, h, (s.isOuter_call limit mode line handle).withEngine]

/-- A call that has come to an outcome leaves no trace on the lock. -/
theorem run_of_call_done {σ : System W E} (h : (s.loader.acquire σ).value = .ok handle)
    {outcome : Except Error EngineResult}
    (hdone : (s.call limit mode line handle (s.loader.acquire σ).world).value = .done outcome) :
    (s.run limit mode line σ).value = .done outcome ∧
      (s.run limit mode line σ).world =
        (s.call limit mode line handle (s.loader.acquire σ).world).world := by
  have hended : LineRun.hold
      (s.call limit mode line handle (s.loader.acquire σ).world).value = .ended := by
    rw [hdone]
    rfl
  simp [run, h, (s.isOuter_call limit mode line handle).withEngine_of_ended hended, hdone]

/-! ## What becomes of the locks -/

theorem isOuter_isLate (deadline : Option Nat) : System.IsOuter (s.isLate deadline) := by
  cases deadline with
  | none => exact System.isOuter_pure _
  | some deadline => exact (System.isOuter_inWorld _).bind fun _ => System.isOuter_pure _

theorem isOuter_conclude (r : RequestRun E Progress) :
    System.IsOuter (conclude r : Act (System W E) (RequestRun E HighlightResult)) := by
  cases r with
  | finished p =>
      refine System.IsOuter.bind ?_ fun _ => System.isOuter_pure _
      simp only [logSummary]
      split
      · exact (System.isOuter_log _ _).bind fun _ => System.isOuter_log _ _
      · exact System.isOuter_log _ _
  | panicked reason => exact System.isOuter_pure _
  | waiting before line rest handle wake => exact System.isOuter_pure _

theorem run_locks (s : Segments W C E) (limit : Option Nat) (mode : Mode) (line : String)
    (σ : System W E) :
    (s.run limit mode line σ).world.loader.lock = σ.loader.lock ∧
      (s.run limit mode line σ).world.loader.engineLock =
        σ.loader.engineLock.after (s.run limit mode line σ).value.hold := by
  obtain ⟨hlock, hengine⟩ := s.loader.acquire_locks σ
  cases hacquire : (s.loader.acquire σ).value with
  | error e =>
      have hrun := (isOuter_settle (E := E) mode (.error e)).loader_eq (s.loader.acquire σ).world
      have hvalue : (settle mode (.error e) (s.loader.acquire σ).world).value.hold = .ended := by
        simp only [settle, logFailure]
        split <;> rfl
      simp only [run, Act.bind_apply, hacquire, hrun, hvalue]
      exact ⟨hlock, hengine⟩
  | ok handle =>
      have hcall := (s.isOuter_call limit mode line handle).loader_eq (s.loader.acquire σ).world
      rw [run_of_acquire hacquire]
      simp only [System.withEngineLock, hcall, hengine]
      exact ⟨hlock, trivial⟩

theorem runLines_locks (s : Segments W C E) (limit deadline : Option Nat) (mode : Mode)
    (lines : List String) (p : Progress) (σ : System W E) :
    (s.runLines limit deadline mode lines p σ).world.loader.lock = σ.loader.lock ∧
      (s.runLines limit deadline mode lines p σ).world.loader.engineLock =
        σ.loader.engineLock.after (s.runLines limit deadline mode lines p σ).value.hold := by
  induction lines generalizing p σ with
  | nil => exact ⟨rfl, rfl⟩
  | cons line lines ih =>
      have hlate := (isOuter_isLate (s := s) deadline).loader_eq σ
      simp only [runLines, Act.bind_apply]
      split
      · simpa only [hlate] using ih (p.skip line) (s.isLate deadline σ).world
      · obtain ⟨hlock, hengine⟩ := s.run_locks limit mode line (s.isLate deadline σ).world
        rw [hlate] at hlock hengine
        simp only [Act.bind_apply]
        cases hran : (s.run limit mode line (s.isLate deadline σ).world).value with
        | done outcome =>
            obtain ⟨hlock', hengine'⟩ :=
              ih (p.record line outcome) (s.run limit mode line (s.isLate deadline σ).world).world
            rw [hran] at hengine
            rw [hlock] at hlock'
            rw [hengine] at hengine'
            exact ⟨hlock', hengine'⟩
        | panicked reason => exact ⟨hlock, by rw [hran] at hengine; exact hengine⟩
        | waiting handle wake => exact ⟨hlock, by rw [hran] at hengine; exact hengine⟩

/-- A request gives back every lock, and marks the engine's lock if it panics. -/
theorem request_locks (s : Segments W C E) (limit deadline : Option Nat) (text : String)
    (mode : Mode) (σ : System W E) :
    (s.request limit deadline text mode σ).world.loader.lock = σ.loader.lock ∧
      (s.request limit deadline text mode σ).world.loader.engineLock =
        σ.loader.engineLock.after (s.request limit deadline text mode σ).value.hold := by
  obtain ⟨hlock, hengine⟩ := s.runLines_locks limit deadline mode (Text.lines text) {} σ
  have hconclude := (isOuter_conclude (W := W)
    (s.runLines limit deadline mode (Text.lines text) {} σ).value).loader_eq
      (s.runLines limit deadline mode (Text.lines text) {} σ).world
  have hhold : (conclude (s.runLines limit deadline mode (Text.lines text) {} σ).value
      (s.runLines limit deadline mode (Text.lines text) {} σ).world).value.hold =
        (s.runLines limit deadline mode (Text.lines text) {} σ).value.hold := by
    cases (s.runLines limit deadline mode (Text.lines text) {} σ).value <;> rfl
  simp only [request, Act.bind_apply, Act.write, hconclude, hhold]
  exact ⟨hlock, hengine⟩

end Segments

end LineHighlight
