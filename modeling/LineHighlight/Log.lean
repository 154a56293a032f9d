/-!
Log entries and actions that write them.

An action reads and changes a world, gives a value and adds entries to a log that it cannot
read, so nothing that it does depends on what was logged.
-/

namespace LineHighlight

/-- How important an entry is. -/
inductive LogLevel where
  | trace
  | debug
  | info
  | warn
  | error
deriving DecidableEq, Repr, Inhabited

/-- The name of a level. -/
def LogLevel.name : LogLevel → String
  | .trace => "TRACE"
  | .debug => "DEBUG"
  | .info => "INFO"
  | .warn => "WARN"
  | .error => "ERROR"

/-- An entry of a log. -/
inductive LogEntry where
  | event (level : LogLevel) (message : String)
  /-- The start of a span, with what its fields show. -/
  | span (name fields : String)
deriving DecidableEq, Repr, Inhabited

/-- What an action leaves behind. -/
structure Effect (W α : Type) where
  value : α
  world : W
  logs : List LogEntry

/-- An action on a world. -/
def Act (W α : Type) := W → Effect W α

namespace Act

variable {W V α β : Type}

/-- The action that does nothing. -/
def pure (a : α) : Act W α :=
  fun w => ⟨a, w, []⟩

/-- One action after another. -/
def bind (x : Act W α) (f : α → Act W β) : Act W β :=
  fun w =>
    let e := x w
    let e' := f e.value e.world
    ⟨e'.value, e'.world, e.logs ++ e'.logs⟩

instance : Monad (Act W) where
  pure := Act.pure
  bind := Act.bind

/-- The world. -/
def get : Act W W :=
  fun w => ⟨w, w, []⟩

/-- Changes the world. -/
def modify (f : W → W) : Act W Unit :=
  fun w => ⟨(), f w, []⟩

/-- Writes an entry. -/
def write (entry : LogEntry) : Act W Unit :=
  fun w => ⟨(), w, [entry]⟩

/-- Writes an event. -/
def log (level : LogLevel) (message : String) : Act W Unit :=
  write (.event level message)

/-- An action on a part of the world. -/
def on (part : V → W) (put : V → W → V) (x : Act W α) : Act V α :=
  fun v =>
    let e := x (part v)
    ⟨e.value, put v e.world, e.logs⟩

@[simp] theorem pure_apply (a : α) (w : W) : (Pure.pure a : Act W α) w = ⟨a, w, []⟩ := rfl

@[simp] theorem bind_apply (x : Act W α) (f : α → Act W β) (w : W) :
    (x >>= f) w =
      ⟨(f (x w).value (x w).world).value, (f (x w).value (x w).world).world,
        (x w).logs ++ (f (x w).value (x w).world).logs⟩ := rfl

@[simp] theorem get_apply (w : W) : (get : Act W W) w = ⟨w, w, []⟩ := rfl

@[simp] theorem modify_apply (f : W → W) (w : W) : modify f w = ⟨(), f w, []⟩ := rfl

@[simp] theorem log_apply (level : LogLevel) (message : String) (w : W) :
    log level message w = ⟨(), w, [.event level message]⟩ := rfl

end Act

end LineHighlight
