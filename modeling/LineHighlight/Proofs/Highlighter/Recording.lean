import LineHighlight.Proofs.Engine.Record
import LineHighlight.Proofs.Highlighter.Turns

/-! Requests in a larger world, and requests with a record of what they ask of the runtime and
the bundle. A record adds up: a request notes the same operations behind whatever was noted
before it. -/

namespace LineHighlight

theorem Loader.Lifts.callsReturn {V W C E : Type} {part : V → W} {l : Loader V C E}
    {m : Loader W C E} (h : l.Lifts part m) (hcalls : m.runtime.CallsReturn) :
    l.runtime.CallsReturn where
  ends engine call text v := by
    rw [(h.start engine call text).value_eq v]
    exact hcalls.ends engine call text (part v)
  returns engine call text v := by
    rw [(h.finish engine call text).value_eq v]
    exact hcalls.returns engine call text (part v)

namespace Segments

variable {V W C E : Type}

/-! ## Lines in a larger world -/

/-- Lines whose loader and whose clock do to a part of the world what those of other lines do to
that part alone. The time is left out, because lines without a deadline do not read it. -/
structure Lifts (part : V → W) (s : Segments V C E) (t : Segments W C E) : Prop where
  loader : s.loader.Lifts part t.loader
  wait : ∀ duration, Act.Lifts part (s.clock.wait duration) (t.clock.wait duration)

section Lifts

variable {part : V → W} {s : Segments V C E} {t : Segments W C E}

theorem lifts_settle (mode : Mode) (outcome : Except Error EngineResult) :
    Act.Lifts (System.map (E := E) part) (settle mode outcome) (settle mode outcome) := by
  cases outcome with
  | ok r => exact fun _ => rfl
  | error e =>
      simp only [settle, logFailure]
      split
      · exact (Act.lifts_log _ _).bind fun _ => Act.lifts_pure _
      · exact (Act.lifts_log _ _).bind fun _ => Act.lifts_pure _

theorem Lifts.finish (h : s.Lifts part t) (mode : Mode) (line : String)
    (handle : EngineHandle E) :
    Act.Lifts (System.map part) (s.finish mode line handle) (t.finish mode line handle) := by
  unfold Segments.finish
  refine (System.lifts_inWorld (h.loader.finish _ _ _)).bind fun ended => ?_
  cases ended with
  | panicked reason => exact Act.lifts_pure _
  | returned answer => exact lifts_settle mode _

theorem Lifts.call (h : s.Lifts part t) (mode : Mode) (line : String)
    (handle : EngineHandle E) :
    Act.Lifts (System.map part) (s.call none mode line handle) (t.call none mode line handle) := by
  unfold Segments.call
  refine (System.lifts_inWorld (h.loader.start _ _ _)).bind fun started => ?_
  cases started with
  | none => exact Act.lifts_pure _
  | some duration =>
      exact (System.lifts_inWorld (h.wait duration)).bind fun _ => h.finish mode line handle

theorem Lifts.run (h : s.Lifts part t) (mode : Mode) (line : String) :
    Act.Lifts (System.map part) (s.run none mode line) (t.run none mode line) := by
  unfold Segments.run
  refine h.loader.acquire.bind fun acquired => ?_
  cases acquired with
  | error e => exact lifts_settle mode _
  | ok handle => exact System.lifts_withEngine _ (h.call mode line handle)

theorem Lifts.runLines (h : s.Lifts part t) (mode : Mode) (lines : List String) (p : Progress) :
    Act.Lifts (System.map part) (s.runLines none none mode lines p)
      (t.runLines none none mode lines p) := by
  induction lines generalizing p with
  | nil => exact Act.lifts_pure _
  | cons line lines ih =>
      simp only [Segments.runLines, isLate]
      refine (Act.lifts_pure false).bind fun late => ?_
      cases late with
      | true => exact ih _
      | false =>
          refine (h.run mode line).bind fun ran => ?_
          cases ran with
          | done outcome => exact ih _
          | panicked reason => exact Act.lifts_pure _
          | waiting handle wake => exact Act.lifts_pure _

theorem lifts_conclude (r : RequestRun E Progress) :
    Act.Lifts (System.map (E := E) part) (conclude r) (conclude r) := by
  cases r with
  | finished p =>
      simp only [conclude, logSummary]
      split
      · exact ((Act.lifts_log _ _).bind fun _ => Act.lifts_log _ _).bind fun _ =>
          Act.lifts_pure _
      · exact (Act.lifts_log _ _).bind fun _ => Act.lifts_pure _
  | panicked reason => exact Act.lifts_pure _
  | waiting before line rest handle wake => exact Act.lifts_pure _

theorem Lifts.highlight (h : s.Lifts part t) (text : String) (mode : Mode) :
    Act.Lifts (System.map part) (s.highlight text mode) (t.highlight text mode) := by
  unfold Segments.highlight Segments.request
  exact (Act.lifts_write _).bind fun _ =>
    (h.runLines mode _ _).bind fun r => lifts_conclude r

end Lifts

/-! ## Records -/

/-- Lines with a record of the operations of their loader. -/
def recorded (s : Segments W C E) : Segments (Recorded W C E) C E where
  loader := s.loader.recorded
  clock :=
    { read := s.clock.read.unnoted
      wait := fun duration => (s.clock.wait duration).unnoted }

theorem recorded_lifts (s : Segments W C E) : s.recorded.Lifts Recorded.world s where
  loader := s.loader.recorded_lifts
  wait _ := Act.lifts_unnoted _

theorem recorded_lifts_after (s : Segments W C E) (past : List (Operation C E)) :
    s.recorded.Lifts (Recorded.after past) s.recorded where
  loader := s.loader.recorded_lifts_after past
  wait _ := Act.unnoted_lifts_after past _

end Segments

/-- A system with what was recorded before. -/
def System.recording {W C E : Type} (σ : System W E) (past : List (Operation C E)) :
    System (Recorded W C E) E where
  loader := σ.loader
  world := { world := σ.world, operations := past }

namespace Segments

variable {W C E : Type}

/-- What a request asks of the runtime and the bundle, in order. -/
def operations (s : Segments W C E) (text : String) (mode : Mode) (σ : System W E) :
    List (Operation C E) :=
  (s.recorded.highlight text mode (σ.recording [])).world.world.operations

/-- A recorded request leaves what the request leaves, and its operations behind the record. -/
theorem recorded_highlight_world (s : Segments W C E) (text : String) (mode : Mode)
    (σ : System W E) (past : List (Operation C E)) :
    (s.recorded.highlight text mode (σ.recording past)).world =
      (s.highlight text mode σ).world.recording (past ++ s.operations text mode σ) := by
  have hplain := (s.recorded_lifts.highlight text mode).world_eq (σ.recording past)
  have hpast := ((s.recorded_lifts_after past).highlight text mode).world_eq (σ.recording [])
  have hstart : (σ.recording []).map (Recorded.after past) = σ.recording past := by
    simp [System.recording, System.map, Recorded.after]
  -- A request that starts with a record does what it does without one, behind the record.
  have hoperations :
      (s.recorded.highlight text mode (σ.recording past)).world.world.operations =
        past ++ s.operations text mode σ := by
    rw [← hstart, ← hpast]
    rfl
  have hσ : (σ.recording past).map Recorded.world = σ := rfl
  rw [hσ] at hplain
  rw [← hplain, ← hoperations]
  rfl

end Segments

end LineHighlight
