import LineHighlight.Proofs.Engine.Record

/-! One acquisition: what a loader does in each of its states, and what it asks of the runtime
and the bundle when it makes an attempt. -/

namespace LineHighlight

/-- The state of a loader after an attempt with a number. -/
def LoaderState.afterAttempt {E : Type} (s : LoaderState E) (policy : LoadFailure) (number : Nat) :
    Except Error E → LoaderState E
  | .ok engine => { s with slot := .ready ⟨number, engine⟩, attempts := number }
  | .error e => { s with slot := Loader.slotAfter policy e, attempts := number }

namespace Loader

variable {W C E : Type}

/-- The failure that is an outcome, if any. -/
def failure? {α : Type} : Except Error α → Option Error
  | .error e => some e
  | .ok _ => none

@[simp] theorem failure?_error {α : Type} (e : Error) :
    failure? (.error e : Except Error α) = some e := rfl

@[simp] theorem failure?_ok {α : Type} (a : α) : failure? (.ok a) = none := rfl

/-! ## The three states -/

theorem attempt_value (l : Loader W C E) (number : Nat) (s : System W E) :
    (l.attempt number s).value = (l.setUp s.world).value.map (EngineHandle.mk number) := by
  cases h : (l.setUp s.world).value with
  | ok engine => simp [attempt, System.modifyLoader, System.inWorld, Act.on, h, Except.map]
  | error e => simp [attempt, System.modifyLoader, System.inWorld, Act.on, h, Except.map]

theorem attempt_world (l : Loader W C E) (number : Nat) (s : System W E) :
    (l.attempt number s).world =
      { loader := s.loader.afterAttempt l.settings.loadFailure number (l.setUp s.world).value
        world := (l.setUp s.world).world } := by
  cases h : (l.setUp s.world).value with
  | ok engine =>
      simp [attempt, System.modifyLoader, System.inWorld, Act.on, h, LoaderState.afterAttempt]
  | error e =>
      simp [attempt, System.modifyLoader, System.inWorld, Act.on, h, LoaderState.afterAttempt]

theorem attempt_logs (l : Loader W C E) (number : Nat) {s t : System W E}
    (h : s.world = t.world) : (l.attempt number s).logs = (l.attempt number t).logs := by
  simp only [attempt, System.modifyLoader, System.inWorld, Act.on, Act.bind_apply,
    Act.modify_apply, Act.log_apply, h]
  cases (l.setUp t.world).value <;> simp

/-- The loader's lock is given back as it was, and does not stand in the way of anything. -/
theorem acquire_eq (l : Loader W C E) : l.acquire = l.provide := by
  funext s
  obtain ⟨⟨slot, attempts, lock, engineLock⟩, world⟩ := s
  simp only [acquire, System.withLoader, System.modifyLoader, provide, Act.bind_apply,
    Act.get_apply, Act.modify_apply, Act.pure_apply, Lock.after, List.nil_append, List.append_nil]
  cases slot with
  | ready handle => simp
  | failed reason => simp
  | empty =>
      let held : System W E := ⟨⟨.empty, attempts, Lock.taken lock.take, engineLock⟩, world⟩
      let free : System W E := ⟨⟨.empty, attempts, lock, engineLock⟩, world⟩
      have hvalue : (l.attempt (attempts + 1) held).value = (l.attempt (attempts + 1) free).value :=
        by rw [attempt_value, attempt_value]
      have hworld : { (l.attempt (attempts + 1) held).world with
          loader := { (l.attempt (attempts + 1) held).world.loader with lock } } =
          (l.attempt (attempts + 1) free).world := by
        rw [attempt_world, attempt_world]
        cases (l.setUp world).value <;> rfl
      rw [hvalue, hworld, l.attempt_logs (attempts + 1) (s := held) (t := free) rfl]

theorem acquire_ready (l : Loader W C E) {s : System W E} {handle : EngineHandle E}
    (h : s.loader.slot = .ready handle) : l.acquire s = ⟨.ok handle, s, []⟩ := by
  simp [acquire_eq, provide, h]

theorem acquire_failed (l : Loader W C E) {s : System W E} {reason : String}
    (h : s.loader.slot = .failed reason) :
    l.acquire s = ⟨.error (.engineUnavailable reason), s, []⟩ := by
  simp [acquire_eq, provide, h]

theorem acquire_empty (l : Loader W C E) {s : System W E} (h : s.loader.slot = .empty) :
    l.acquire s = l.attempt (s.loader.attempts + 1) s := by
  simp [acquire_eq, provide, h]

/-- An acquisition gives back every lock as it was. -/
theorem acquire_locks (l : Loader W C E) (s : System W E) :
    (l.acquire s).world.loader.lock = s.loader.lock ∧
      (l.acquire s).world.loader.engineLock = s.loader.engineLock := by
  cases hslot : s.loader.slot with
  | ready handle => simp [l.acquire_ready hslot]
  | failed reason => simp [l.acquire_failed hslot]
  | empty =>
      rw [l.acquire_empty hslot, attempt_world]
      cases (l.setUp s.world).value <;> exact ⟨rfl, rfl⟩

/-! ## The operations of an attempt -/

/-- An attempt stops at the first operation that fails, evaluation apart, and its outcome is
that of the last operation. -/
inductive Attempted (settings : EngineSettings) :
    List (Operation C E) → Except Error E → Prop where
  | noContext (e) : Attempted settings [.createContext (.error e)] (.error e)
  | noPayload (context e) :
      Attempted settings
        [.createContext (.ok context),
          .load settings.resourceName settings.resourceExtension (.error e)] (.error e)
  | lookedUp (context source evaluated outcome) :
      Attempted settings
        [.createContext (.ok context),
          .load settings.resourceName settings.resourceExtension (.ok source),
          .evaluate context source evaluated,
          .intoEngine context settings.entryPoint outcome] outcome

theorem Attempted.contexts {settings : EngineSettings} {operations : List (Operation C E)}
    {outcome : Except Error E} (h : Attempted settings operations outcome) :
    operations.countP Operation.isCreateContext = 1 := by
  cases h <;> rfl

theorem Attempted.engines {settings : EngineSettings} {operations : List (Operation C E)}
    {engine : E} (h : Attempted settings operations (.ok engine)) :
    operations.countP Operation.givesEngine = 1 := by
  cases h with
  | lookedUp => rfl

theorem Attempted.no_engines {settings : EngineSettings} {operations : List (Operation C E)}
    {e : Error} (h : Attempted settings operations (.error e)) :
    operations.countP Operation.givesEngine = 0 := by
  cases h <;> rfl

/-- An attempt that fails has met one obstacle, and one that succeeds none. -/
theorem Attempted.obstacles {settings : EngineSettings} {operations : List (Operation C E)}
    {outcome : Except Error E} (h : Attempted settings operations outcome) :
    operations.filterMap Operation.obstacle? = (failure? outcome).toList := by
  cases h with
  | noContext => rfl
  | noPayload => rfl
  | lookedUp => cases outcome <;> rfl

/-- A recorded attempt adds its operations to the record. -/
theorem setUp_recorded (l : Loader W C E) (r : Recorded W C E) :
    ∃ operations, Attempted l.settings operations (l.recorded.setUp r).value ∧
      (l.recorded.setUp r).world.operations = r.operations ++ operations := by
  cases hcreated : (l.runtime.createContext r.world).value with
  | error e =>
      have hvalue : (l.recorded.setUp r).value = .error e := by
        simp [setUp, recorded, hcreated]
      rw [hvalue]
      exact ⟨_, .noContext e, by simp [setUp, recorded, hcreated]⟩
  | ok context =>
      let created := (l.runtime.createContext r.world).world
      cases hloaded : (l.bundle.load l.settings.resourceName l.settings.resourceExtension
          created).value with
      | error e =>
          have hvalue : (l.recorded.setUp r).value = .error e := by
            simp [setUp, recorded, hcreated, created, hloaded]
          rw [hvalue]
          exact ⟨_, .noPayload context e, by simp [setUp, recorded, hcreated, created, hloaded]⟩
      | ok source =>
          let loaded := (l.bundle.load l.settings.resourceName l.settings.resourceExtension
            created).world
          let evaluated := l.runtime.evaluate context source loaded
          refine ⟨_, .lookedUp context source evaluated.value _, ?_⟩
          -- Only the log depends on whether the payload ran to its end.
          cases hevaluated : evaluated.value with
          | error e => simp_all [setUp, recorded, created, loaded, evaluated]
          | ok _ => simp_all [setUp, recorded, created, loaded, evaluated]

end Loader

end LineHighlight
