import LineHighlight.Proofs.Engine.Projection

/-! Loaders that keep a record of what they ask of their runtime and their bundle.
A record grows at its end and is never read, so a recorded loader does what the loader does. -/

namespace LineHighlight

/-- What was asked of a runtime or a bundle, with what came of it. -/
inductive Operation (C E : Type) where
  | createContext (outcome : Except Error C)
  | load (name extension : String) (outcome : Except Error String)
  | evaluate (context : C) (source : String) (outcome : Except Error Unit)
  | intoEngine (context : C) (entryPoint : String) (outcome : Except Error E)
  /-- The start of a call on a text. -/
  | call (engine : E) (call : EngineCall) (text : String)

namespace Operation

variable {C E : Type}

/-- Whether it is an attempt to create a context. -/
def isCreateContext : Operation C E → Bool
  | createContext _ => true
  | _ => false

/-- Whether it made an engine. -/
def givesEngine : Operation C E → Bool
  | intoEngine _ _ (.ok _) => true
  | _ => false

/-- The failure with which it ends an attempt to make an engine. A script that fails ends
none. -/
def obstacle? : Operation C E → Option Error
  | createContext (.error e) | load _ _ (.error e) | intoEngine _ _ (.error e) => some e
  | _ => none

end Operation

/-- A world with a record, oldest operation first. -/
structure Recorded (W C E : Type) where
  world : W
  operations : List (Operation C E) := []

/-- A recorded world with an earlier record in front. -/
def Recorded.after {W C E : Type} (past : List (Operation C E)) (r : Recorded W C E) :
    Recorded W C E where
  world := r.world
  operations := past ++ r.operations

namespace Act

variable {W C E α : Type}

/-- An action that is noted behind the record. -/
def noted (x : Act W α) (note : α → Operation C E) : Act (Recorded W C E) α := fun r =>
  let e := x r.world
  ⟨e.value, ⟨e.world, r.operations ++ [note e.value]⟩, e.logs⟩

/-- An action that is not noted. -/
def unnoted (x : Act W α) : Act (Recorded W C E) α :=
  x.on Recorded.world fun r w => { r with world := w }

@[simp] theorem noted_apply (x : Act W α) (note : α → Operation C E) (r : Recorded W C E) :
    x.noted note r = ⟨(x r.world).value,
      ⟨(x r.world).world, r.operations ++ [note (x r.world).value]⟩, (x r.world).logs⟩ := rfl

theorem lifts_noted (x : Act W α) (note : α → Operation C E) :
    Lifts Recorded.world (x.noted note) x :=
  fun _ => rfl

theorem lifts_unnoted (x : Act W α) :
    Lifts (Recorded.world (C := C) (E := E)) x.unnoted x :=
  fun _ => rfl

theorem noted_lifts_after (past : List (Operation C E)) (x : Act W α)
    (note : α → Operation C E) : Lifts (Recorded.after past) (x.noted note) (x.noted note) := by
  intro r
  simp [Effect.seen, Recorded.after]

theorem unnoted_lifts_after (past : List (Operation C E)) (x : Act W α) :
    Lifts (Recorded.after past) x.unnoted x.unnoted :=
  fun _ => rfl

end Act

namespace Loader

variable {W C E : Type}

/-- The loader, with a record of its operations. -/
def recorded (l : Loader W C E) : Loader (Recorded W C E) C E where
  runtime :=
    { name := l.runtime.name
      createContext := l.runtime.createContext.noted .createContext
      evaluate := fun context source =>
        (l.runtime.evaluate context source).noted (.evaluate context source)
      intoEngine := fun context entryPoint =>
        (l.runtime.intoEngine context entryPoint).noted (.intoEngine context entryPoint)
      start := fun engine call text =>
        (l.runtime.start engine call text).noted fun _ => .call engine call text
      finish := fun engine call text => (l.runtime.finish engine call text).unnoted }
  bundle :=
    { load := fun name extension =>
        (l.bundle.load name extension).noted (.load name extension) }
  settings := l.settings

/-- Recording changes nothing of what a loader does. -/
theorem recorded_lifts (l : Loader W C E) : l.recorded.Lifts Recorded.world l where
  settings_eq := rfl
  name_eq := rfl
  createContext := Act.lifts_noted _ _
  load _ _ := Act.lifts_noted _ _
  evaluate _ _ := Act.lifts_noted _ _
  intoEngine _ _ := Act.lifts_noted _ _
  start _ _ _ := Act.lifts_noted _ _
  finish _ _ _ := Act.lifts_unnoted _

/-- A record does not depend on what was recorded before. -/
theorem recorded_lifts_after (l : Loader W C E) (past : List (Operation C E)) :
    l.recorded.Lifts (Recorded.after past) l.recorded where
  settings_eq := rfl
  name_eq := rfl
  createContext := Act.noted_lifts_after past _ _
  load _ _ := Act.noted_lifts_after past _ _
  evaluate _ _ := Act.noted_lifts_after past _ _
  intoEngine _ _ := Act.noted_lifts_after past _ _
  start _ _ _ := Act.noted_lifts_after past _ _
  finish _ _ _ := Act.unnoted_lifts_after past _

end Loader

end LineHighlight
