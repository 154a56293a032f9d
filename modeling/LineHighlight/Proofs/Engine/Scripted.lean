import LineHighlight.Highlighter.Segment
import LineHighlight.Proofs.Engine.Attempts
import LineHighlight.World

/-! Loaders whose runtime runs no scripts: what an attempt does in each of its cases, and what
it leaves alone. The payload is what the files hold at the time of the attempt. -/

namespace LineHighlight

/-- What a bundle finds in the files under a name and an extension. -/
abbrev Reading := Files.Tree → Files.Place → String → String → Except Error String

namespace World

/-- A bundle that only reads. -/
def reading (read : Reading) : Bundle World where
  load name extension := do
    let w ← Act.get
    return read w.files w.home name extension

theorem directory_eq_reading (b : DirectoryBundle) : directory b = reading b.load := rfl

theorem embedded_eq_reading (b : EmbeddedBundle) : embedded b = reading fun _ _ => b.load := rfl

/-- A payload in memory. -/
def inMemory : Reading :=
  fun _ _ => EmbeddedBundle.load { entries := [("highlight.min.js", "hljs")] }

/-- Lines with a runtime that answers calls by a function. -/
def answering (respond : Responder) (read : Reading) (settings : EngineSettings) :
    Segments World Nat EngineRef where
  loader :=
    { runtime := respondingRuntime respond
      bundle := reading read
      settings := settings }
  clock := clock

def withoutContext (w : World) : World :=
  { w with scripted := { w.scripted with failing := w.scripted.failing - 1 } }

/-- The world with a new context in which texts have been run. -/
def withContext (w : World) (sources : List String) : World :=
  { w with
    scripted :=
      { w.scripted with
        created := w.scripted.created + 1
        evaluated := w.scripted.evaluated ++ sources
        contexts := w.scripted.contexts ++ [sources] } }

/-- What an attempt finds under the name of the payload. -/
def payload (read : Reading) (settings : EngineSettings) (w : World) : Except Error String :=
  read w.files w.home settings.resourceName settings.resourceExtension

/-- The part of a world that a runtime without scripts keeps. -/
def scriptedPart : Scripted.Part World where
  get := World.scripted
  put w s := { w with scripted := s }
  get_put _ _ := rfl
  put_put _ _ _ := rfl

/-! ## One attempt -/

section Attempt

variable (respond : Responder) {read : Reading} {settings : EngineSettings} {w : World}

theorem setUp_failing (read : Reading) (settings : EngineSettings) (h : 0 < w.scripted.failing) :
    (answering respond read settings).loader.setUp w =
      ⟨.error (.contextCreationFailed "scripted context failure"), w.withoutContext, []⟩ :=
  Scripted.setUp_failing scriptedPart respond (reading read) settings h

theorem setUp_unread {e : Error} (h : w.scripted.failing = 0)
    (hread : payload read settings w = .error e) :
    (answering respond read settings).loader.setUp w = ⟨.error e, w.withContext [], []⟩ :=
  Scripted.setUp_unread scriptedPart respond (reading read) settings h hread

/-- Only the payload of this attempt decides whether there is an entry point. -/
theorem setUp_read {source : String} (h : w.scripted.failing = 0)
    (hread : payload read settings w = .ok source) :
    ((answering respond read settings).loader.setUp w).world = w.withContext [source] ∧
      ((answering respond read settings).loader.setUp w).value =
        if Text.contains source settings.entryPoint then
          .ok ⟨w.scripted.contexts.length, settings.entryPoint⟩
        else .error (.entryPointNotFound settings.entryPoint) :=
  Scripted.setUp_read scriptedPart respond (reading read) settings h hread rfl

/-- An attempt changes nothing but the contexts of a world. -/
theorem setUp_world (read : Reading) (settings : EngineSettings) (w : World) :
    ((answering respond read settings).loader.setUp w).world = w.withoutContext ∨
      ∃ sources, ((answering respond read settings).loader.setUp w).world =
        w.withContext sources := by
  rcases Nat.eq_zero_or_pos w.scripted.failing with h | h
  · cases hread : payload read settings w with
    | error e => exact .inr ⟨[], by rw [setUp_unread respond h hread]⟩
    | ok source => exact .inr ⟨[source], (setUp_read respond h hread).1⟩
  · exact .inl (by rw [setUp_failing respond read settings h])

end Attempt

end World

end LineHighlight
