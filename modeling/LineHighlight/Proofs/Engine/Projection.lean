import LineHighlight.Engine.Loader

/-! Loaders in a large world that do to a part of it what a loader does to that part alone.
The rest of the world may change as it likes, so a record of what was done or a clock can be
added to any world without a change to what the loader does. -/

namespace LineHighlight

/-- What an effect leaves in a part of the world. -/
def Effect.seen {V W α : Type} (part : V → W) (e : Effect V α) : Effect W α where
  value := e.value
  world := part e.world
  logs := e.logs

/-! ## Actions -/

namespace Act

variable {V W α β : Type} {part : V → W}

/-- `x` does to a part of its world what `y` does to that part alone. -/
def Lifts (part : V → W) (x : Act V α) (y : Act W α) : Prop :=
  ∀ v, (x v).seen part = y (part v)

theorem Lifts.value_eq {x : Act V α} {y : Act W α} (h : Lifts part x y) (v : V) :
    (x v).value = (y (part v)).value :=
  congrArg Effect.value (h v)

theorem Lifts.world_eq {x : Act V α} {y : Act W α} (h : Lifts part x y) (v : V) :
    part (x v).world = (y (part v)).world :=
  congrArg Effect.world (h v)

theorem lifts_pure (a : α) : Lifts part (Pure.pure a) (Pure.pure a) :=
  fun _ => rfl

theorem lifts_write (entry : LogEntry) : Lifts part (write entry) (write entry) :=
  fun _ => rfl

theorem lifts_log (level : LogLevel) (message : String) :
    Lifts part (log level message) (log level message) :=
  fun _ => rfl

theorem Lifts.bind {x : Act V α} {y : Act W α} {f : α → Act V β} {g : α → Act W β}
    (hx : Lifts part x y) (hf : ∀ a, Lifts part (f a) (g a)) :
    Lifts part (x >>= f) (y >>= g) := by
  intro v
  have hrest : (f (x v).value (x v).world).seen part =
      g ((x v).seen part).value ((x v).seen part).world := hf _ _
  simp only [bind_apply, ← hx v, ← hrest]
  rfl

end Act

/-! ## Systems -/

namespace System

variable {V W E α : Type} {part : V → W}

/-- A system as it shows in a part of its world. -/
def map (part : V → W) (s : System V E) : System W E where
  loader := s.loader
  world := part s.world

theorem lifts_modifyLoader (f : LoaderState E → LoaderState E) :
    Act.Lifts (map part) (modifyLoader f) (modifyLoader f) :=
  fun _ => rfl

theorem lifts_inWorld {x : Act V α} {y : Act W α} (h : Act.Lifts part x y) :
    Act.Lifts (map (E := E) part) (inWorld x) (inWorld y) := by
  intro s
  have hv := h s.world
  simp only [inWorld, Act.on, Effect.seen, map, ← hv]

/-! A lock is the loader's, and no part of the world. -/

theorem lifts_withLoader {x : Act (System V E) α} {y : Act (System W E) α}
    (h : Act.Lifts (map part) x y) : Act.Lifts (map part) (withLoader x) (withLoader y) :=
  fun s => ((lifts_modifyLoader _).bind fun _ => h.bind fun a =>
    (lifts_modifyLoader fun l => { l with lock := s.loader.lock.after .ended }).bind fun _ =>
      Act.lifts_pure a) s

theorem lifts_withEngine {x : Act (System V E) α} {y : Act (System W E) α} (progress : α → Hold)
    (h : Act.Lifts (map part) x y) :
    Act.Lifts (map part) (withEngine progress x) (withEngine progress y) :=
  fun s => ((lifts_modifyLoader _).bind fun _ => h.bind fun a =>
    (lifts_modifyLoader fun l =>
      { l with engineLock := s.loader.engineLock.after (progress a) }).bind fun _ =>
        Act.lifts_pure a) s

end System

/-! ## Loaders -/

namespace Loader

variable {V W C E : Type} {part : V → W}

/-- A loader whose every operation does to a part of its world what the same operation of
another loader does to that part alone. -/
structure Lifts (part : V → W) (l : Loader V C E) (m : Loader W C E) : Prop where
  settings_eq : l.settings = m.settings
  name_eq : l.runtime.name = m.runtime.name
  createContext : Act.Lifts part l.runtime.createContext m.runtime.createContext
  load : ∀ name extension,
    Act.Lifts part (l.bundle.load name extension) (m.bundle.load name extension)
  evaluate : ∀ context source,
    Act.Lifts part (l.runtime.evaluate context source) (m.runtime.evaluate context source)
  intoEngine : ∀ context entryPoint,
    Act.Lifts part (l.runtime.intoEngine context entryPoint)
      (m.runtime.intoEngine context entryPoint)
  start : ∀ engine call text,
    Act.Lifts part (l.runtime.start engine call text) (m.runtime.start engine call text)
  finish : ∀ engine call text,
    Act.Lifts part (l.runtime.finish engine call text) (m.runtime.finish engine call text)

theorem Lifts.setUp {l : Loader V C E} {m : Loader W C E} (h : l.Lifts part m) :
    Act.Lifts part l.setUp m.setUp := by
  unfold Loader.setUp
  rw [h.settings_eq]
  refine h.createContext.bind fun created => ?_
  cases created with
  | error e => exact Act.lifts_pure _
  | ok context =>
      refine (h.load _ _).bind fun loaded => ?_
      cases loaded with
      | error e => exact Act.lifts_pure _
      | ok source =>
          refine (h.evaluate context source).bind fun evaluated => ?_
          cases evaluated with
          | error e => exact (Act.lifts_log _ _).bind fun _ => h.intoEngine context _
          | ok _ => exact h.intoEngine context _

theorem Lifts.attempt {l : Loader V C E} {m : Loader W C E} (h : l.Lifts part m) (number : Nat) :
    Act.Lifts (System.map part) (l.attempt number) (m.attempt number) := by
  unfold Loader.attempt Loader.loadedText
  rw [h.settings_eq, h.name_eq]
  refine (System.lifts_modifyLoader _).bind fun _ => ?_
  refine (Act.lifts_log _ _).bind fun _ => ?_
  refine (System.lifts_inWorld h.setUp).bind fun outcome => ?_
  cases outcome with
  | ok engine =>
      exact (Act.lifts_log _ _).bind fun _ =>
        (System.lifts_modifyLoader _).bind fun _ => Act.lifts_pure _
  | error e =>
      exact (Act.lifts_log _ _).bind fun _ =>
        (System.lifts_modifyLoader _).bind fun _ => Act.lifts_pure _

theorem Lifts.provide {l : Loader V C E} {m : Loader W C E} (h : l.Lifts part m) :
    Act.Lifts (System.map part) l.provide m.provide := by
  intro s
  have hattempt := h.attempt (s.loader.attempts + 1) s
  simp only [Loader.provide, Act.bind_apply, Act.get_apply, List.nil_append]
  cases hslot : s.loader.slot with
  | ready handle => simp [Effect.seen, System.map, hslot]
  | failed reason => simp [Effect.seen, System.map, hslot]
  | empty => simpa [System.map, hslot] using hattempt

theorem Lifts.acquire {l : Loader V C E} {m : Loader W C E} (h : l.Lifts part m) :
    Act.Lifts (System.map part) l.acquire m.acquire :=
  System.lifts_withLoader h.provide

end Loader

end LineHighlight
