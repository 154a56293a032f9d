import LineHighlight.Engine.Bundle
import LineHighlight.Engine.Deadline
import LineHighlight.Engine.Scripted
import LineHighlight.Script.Realm

/-!
The world that the service runs in: files, contexts of scripts, and the time.
-/

namespace LineHighlight

/-- A world, with an interpreter whose contexts have states `S`. -/
structure World (S : Type := Script.Realm) where
  files : Files.Tree := {}
  /-- The working directory. -/
  home : Files.Place := []
  scripted : ScriptedState := {}
  /-- How many runtimes the interpreter was asked for. -/
  runtimes : Nat := 0
  contexts : List (ScriptContext S) := []
  /-- The time in milliseconds. -/
  now : Nat := 0

namespace World

variable {S : Type}

/-- The clock of the world. -/
def clock : Clock (World S) where
  read := do return (← Act.get).now
  wait duration := Act.modify fun w => { w with now := w.now + duration }

/-- A runtime that runs no scripts, in the world. -/
def respondingRuntime (respond : Responder) : Runtime World Nat EngineRef :=
  (Scripted.runtime respond).on World.scripted fun w s => { w with scripted := s }

/-- The same, where an answer depends on nothing but its call. -/
def scriptedRuntime (respond : RecordedCall → Response) : Runtime World Nat EngineRef :=
  respondingRuntime fun _ => respond

/-- The resources in the files of a directory. -/
def directory (b : DirectoryBundle) : Bundle (World S) where
  load name extension := do
    let w ← Act.get
    return b.load w.files w.home name extension

/-- The resources of an embedded bundle. -/
def embedded (b : EmbeddedBundle) : Bundle (World S) where
  load name extension := return b.load name extension

/-! ## Contexts -/

section Contexts

variable [Inhabited S]

/-- The context with a number. -/
def context (w : World S) (n : Nat) : ScriptContext S :=
  (w.contexts[n]?).getD default

/-- The contexts up to the one with a number, which may be behind the last one. -/
def upTo (n : Nat) (contexts : List (ScriptContext S)) : List (ScriptContext S) :=
  contexts ++ List.replicate (n + 1 - contexts.length) default

/-- Changes the context with a number. -/
def setContext (n : Nat) (c : ScriptContext S) : Act (World S) Unit :=
  Act.modify fun w => { w with contexts := (upTo n w.contexts).set n c }

/-- Runs something in a context for as long as it takes; gives nothing if it never ends. -/
def execute {α : Type} (n : Nat) (x : Execution S α) :
    Act (World S) (Option (Except String α)) := do
  let w ← Act.get
  let c := w.context n
  match x c.handler w.now c.state with
  | none => return none
  | some ended =>
    setContext n { c with state := ended.state }
    clock.wait ended.took
    return some ended.outcome

end Contexts

end World

end LineHighlight
