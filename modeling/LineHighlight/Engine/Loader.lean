import LineHighlight.Config
import LineHighlight.Engine.Lock
import LineHighlight.Engine.Runtime

/-!
The loader: one engine, made on first use and kept.

Acquiring the engine is one indivisible action, under the loader's own lock. A loader that is
ready gives its handle again, one that has given up fails at once, and an empty one makes an
attempt: a new context, the payload from the bundle, its evaluation, and the look-up of the entry
point. A payload that fails while it is evaluated does not end the attempt, only the look-up
decides. The engine has a lock of its own, for its calls.
-/

namespace LineHighlight

/-- The engine that an attempt made. Handles of the same attempt are the same engine. -/
structure EngineHandle (E : Type) where
  attempt : Nat
  engine : E
deriving DecidableEq, Repr

/-- What a loader holds. -/
inductive Slot (E : Type) where
  | empty
  | ready (handle : EngineHandle E)
  /-- The first failure, under a policy that tries no more. -/
  | failed (reason : String)
deriving DecidableEq, Repr

/-- The state of a loader. -/
structure LoaderState (E : Type) where
  slot : Slot E := .empty
  attempts : Nat := 0
  /-- The lock on this state. -/
  lock : Lock := {}
  /-- The lock on the engine. -/
  engineLock : Lock := {}
deriving DecidableEq, Repr

namespace LoaderState

/-- Whether an engine has been loaded. -/
def isLoaded {E : Type} (s : LoaderState E) : Bool :=
  match s.slot with
  | .ready _ => true
  | _ => false

end LoaderState

/-- A world with the state of a loader in it. -/
structure System (W E : Type) where
  loader : LoaderState E
  world : W

namespace System

variable {W E α : Type}

/-- An action on the world. -/
def inWorld (x : Act W α) : Act (System W E) α :=
  x.on System.world fun s w => { s with world := w }

/-- Changes the loader's state. -/
def modifyLoader (f : LoaderState E → LoaderState E) : Act (System W E) Unit :=
  Act.modify fun s => { s with loader := f s.loader }

/-- Does something under the loader's lock. -/
def withLoader (x : Act (System W E) α) : Act (System W E) α := do
  let s ← Act.get
  modifyLoader fun l => { l with lock := Lock.taken l.lock.take }
  let a ← x
  modifyLoader fun l => { l with lock := s.loader.lock.after .ended }
  return a

/-- Does something under the engine's lock, which is kept until it has come to an end. -/
def withEngine (progress : α → Hold) (x : Act (System W E) α) : Act (System W E) α := do
  let s ← Act.get
  modifyLoader fun l => { l with engineLock := Lock.taken l.engineLock.take }
  let a ← x
  modifyLoader fun l => { l with engineLock := s.loader.engineLock.after (progress a) }
  return a

end System

/-- What a loader makes engines with. -/
structure Loader (W C E : Type) where
  runtime : Runtime W C E
  bundle : Bundle W
  settings : EngineSettings

namespace Loader

variable {W C E : Type}

/-- One attempt to make an engine. -/
def setUp (l : Loader W C E) : Act W (Except Error E) := do
  match ← l.runtime.createContext with
  | .error e => return .error e
  | .ok context =>
    match ← l.bundle.load l.settings.resourceName l.settings.resourceExtension with
    | .error e => return .error e
    | .ok source =>
      match ← l.runtime.evaluate context source with
      | .error e => Act.log .warn ("Engine payload raised during evaluation: " ++ e.message)
      | .ok () => pure ()
      l.runtime.intoEngine context l.settings.entryPoint

/-- What the log says of a loaded engine. -/
def loadedText (l : Loader W C E) : String :=
  s!"Engine loaded: runtime={l.runtime.name}, resource={l.settings.resourceName}." ++
    s!"{l.settings.resourceExtension}, entry_point={l.settings.entryPoint}"

/-- The slot after an attempt that failed. -/
def slotAfter (policy : LoadFailure) (e : Error) : Slot E :=
  match policy with
  | .retry => .empty
  | .failFast => .failed e.message

/-- The attempt of an empty loader. -/
def attempt (l : Loader W C E) (number : Nat) :
    Act (System W E) (Except Error (EngineHandle E)) := do
  System.modifyLoader fun s => { s with attempts := number }
  Act.log .debug s!"Initializing {l.runtime.name} engine (attempt {number})"
  match ← System.inWorld l.setUp with
  | .ok engine =>
    Act.log .info l.loadedText
    System.modifyLoader fun s => { s with slot := .ready ⟨number, engine⟩ }
    return .ok ⟨number, engine⟩
  | .error e =>
    Act.log .warn s!"Engine initialization failed (attempt {number}): {e.message}"
    System.modifyLoader fun s => { s with slot := slotAfter l.settings.loadFailure e }
    return .error e

/-- The engine, made now if need be, for a caller that holds the loader's lock. -/
def provide (l : Loader W C E) : Act (System W E) (Except Error (EngineHandle E)) := do
  let s ← Act.get
  match s.loader.slot with
  | .ready handle => return .ok handle
  | .failed reason => return .error (.engineUnavailable reason)
  | .empty => l.attempt (s.loader.attempts + 1)

/-- The engine, made now if need be. -/
def acquire (l : Loader W C E) : Act (System W E) (Except Error (EngineHandle E)) :=
  System.withLoader l.provide

end Loader

end LineHighlight
