import LineHighlight.Proofs.Highlighter.Locks
import LineHighlight.Proofs.Highlighter.Stitching
import LineHighlight.Proofs.Text.Lines
import LineHighlight.World

/-! Lines run in turn, each in the system that the line before it left.
A request without a deadline does nothing else: its result is stitched from the outcomes of
its lines, and the system that it leaves is the one that its last line leaves. -/

namespace LineHighlight

/-- A runtime whose calls end and do not panic. -/
structure Runtime.CallsReturn {W C E : Type} (r : Runtime W C E) : Prop where
  ends : ∀ engine call text w, ∃ duration, (r.start engine call text w).value = some duration
  returns : ∀ engine call text w, ∃ answer,
    (r.finish engine call text w).value = .returned answer

theorem World.respondingRuntime_callsReturn {respond : Responder}
    (h : ∀ before call, ∃ answer, (respond before call).outcome = .returned answer) :
    (World.respondingRuntime respond).CallsReturn where
  ends _ call text w := ⟨(respond w.scripted.asked (.ofCall text call)).delay, rfl⟩
  returns _ call text w := by
    obtain ⟨answer, hanswer⟩ := h w.scripted.asked (.ofCall text call)
    refine ⟨answer, ?_⟩
    simp [World.respondingRuntime, Runtime.on, Act.on, Scripted.runtime, Scripted.finish, hanswer]

namespace World

/-- Lines with a runtime that echoes them and a payload in memory. -/
def echoing : Segments World Nat EngineRef where
  loader :=
    { runtime := scriptedRuntime Scripted.echo
      bundle := embedded { entries := [("highlight.min.js", "hljs")] }
      settings := {} }
  clock := clock

/-- A system in which no engine has been made and the next contexts fail. -/
def unloaded (failing : Nat) : System World EngineRef where
  loader := {}
  world := { scripted := { failing := failing } }

theorem echoing_callsReturn : echoing.loader.runtime.CallsReturn :=
  respondingRuntime_callsReturn fun _ _ => ⟨_, rfl⟩

end World

open HighlightResult

namespace Segments

variable {W C E : Type} {s : Segments W C E} {mode : Mode}

/-! ## One line -/

@[simp] theorem settle_value (mode : Mode) (outcome : Except Error EngineResult)
    (σ : System W E) : (settle mode outcome σ).value = .done outcome := by
  cases outcome <;> rfl

@[simp] theorem settle_world (mode : Mode) (outcome : Except Error EngineResult)
    (σ : System W E) : (settle mode outcome σ).world = σ := by
  cases outcome with
  | ok r => rfl
  | error e =>
      simp only [settle, logFailure]
      split <;> rfl

theorem finish_done (h : s.loader.runtime.CallsReturn) (mode : Mode) (line : String)
    (handle : EngineHandle E) (σ : System W E) :
    ∃ outcome, (s.finish mode line handle σ).value = .done outcome := by
  obtain ⟨answer, hanswer⟩ := h.returns handle.engine mode.engineCall line σ.world
  refine ⟨answer.bind EngineResult.ofAnswer, ?_⟩
  simp [finish, System.inWorld, Act.on, hanswer]

theorem call_done (h : s.loader.runtime.CallsReturn) (mode : Mode) (line : String)
    (handle : EngineHandle E) (σ : System W E) :
    ∃ outcome, (s.call none mode line handle σ).value = .done outcome := by
  obtain ⟨duration, hends⟩ := h.ends handle.engine mode.engineCall line σ.world
  have hstart : (System.inWorld (s.loader.runtime.start handle.engine mode.engineCall line)
      σ).value = some duration := hends
  simp only [call, Act.bind_apply, hstart]
  exact finish_done h mode line handle _

/-- A line has an outcome, whether or not there is an engine for it. -/
theorem run_done (h : s.loader.runtime.CallsReturn) (mode : Mode) (line : String)
    (σ : System W E) : ∃ outcome, (s.run none mode line σ).value = .done outcome := by
  cases hacquire : (s.loader.acquire σ).value with
  | error e => exact ⟨.error e, by simp [run, hacquire]⟩
  | ok handle =>
      obtain ⟨outcome, hcall⟩ := call_done h mode line handle (s.loader.acquire σ).world
      exact ⟨outcome, (run_of_call_done hacquire hcall).1⟩

/-! ## All lines -/

/-- Lines run in turn, with their outcomes, the system they leave and what they log. -/
inductive InTurn (s : Segments W C E) (mode : Mode) : System W E → List String →
    List (Except Error EngineResult) → System W E → List LogEntry → Prop
  | nil (σ : System W E) : InTurn s mode σ [] [] σ []
  | cons {σ τ : System W E} {line : String} {lines : List String}
      {outcome : Except Error EngineResult} {outcomes : List (Except Error EngineResult)}
      {logs : List LogEntry} (hline : (s.run none mode line σ).value = .done outcome)
      (hrest : InTurn s mode (s.run none mode line σ).world lines outcomes τ logs) :
      InTurn s mode σ (line :: lines) (outcome :: outcomes) τ
        ((s.run none mode line σ).logs ++ logs)

theorem exists_inTurn (h : s.loader.runtime.CallsReturn) (mode : Mode) (lines : List String)
    (σ : System W E) : ∃ outcomes τ logs, s.InTurn mode σ lines outcomes τ logs := by
  induction lines generalizing σ with
  | nil => exact ⟨[], σ, [], .nil σ⟩
  | cons line lines ih =>
      obtain ⟨outcome, hline⟩ := run_done h mode line σ
      obtain ⟨outcomes, τ, logs, hrest⟩ := ih (s.run none mode line σ).world
      exact ⟨outcome :: outcomes, τ, _, .cons hline hrest⟩

namespace InTurn

variable {σ τ υ : System W E} {lines lines' : List String}
  {outcomes outcomes' : List (Except Error EngineResult)} {logs logs' : List LogEntry}

theorem length_eq (h : s.InTurn mode σ lines outcomes τ logs) :
    outcomes.length = lines.length := by
  induction h with
  | nil => rfl
  | cons _ _ ih => simp [ih]

/-- Lines come out in one way only. -/
theorem unique (h : s.InTurn mode σ lines outcomes τ logs)
    (h' : s.InTurn mode σ lines outcomes' υ logs') :
    outcomes = outcomes' ∧ τ = υ ∧ logs = logs' := by
  induction h generalizing outcomes' υ logs' with
  | nil =>
      cases h'
      exact ⟨rfl, rfl, rfl⟩
  | cons hline _ ih =>
      cases h' with
      | cons hline' hrest' =>
          obtain ⟨rfl, rfl, rfl⟩ := ih hrest'
          obtain rfl := LineRun.done.inj (hline.symm.trans hline')
          exact ⟨rfl, rfl, rfl⟩

theorem append (h : s.InTurn mode σ lines outcomes τ logs)
    (h' : s.InTurn mode τ lines' outcomes' υ logs') :
    s.InTurn mode σ (lines ++ lines') (outcomes ++ outcomes') υ (logs ++ logs') := by
  induction h with
  | nil => exact h'
  | cons hline _ ih =>
      rw [List.append_assoc]
      exact .cons hline (ih h')

theorem runLines (h : s.InTurn mode σ lines outcomes τ logs) (p : Progress) :
    s.runLines none none mode lines p σ = ⟨.finished (p.recordAll lines outcomes), τ, logs⟩ := by
  induction h generalizing p with
  | nil => rfl
  | cons hline _ ih => simp [Segments.runLines, isLate, hline, ih]

end InTurn

/-! ## Requests -/

@[simp] theorem logSummary_world (p : Progress) (σ : System W E) :
    (logSummary p σ).world = σ := by
  unfold logSummary
  split <;> rfl

theorem logSummary_logs {V W E F : Type} (p : Progress) (σ : System V E) (τ : System W F) :
    (logSummary p σ).logs = (logSummary p τ).logs := by
  unfold logSummary
  split <;> rfl

/-- What becomes of a request is settled by its lines. -/
theorem conclude_value (r : RequestRun E Progress) (σ τ : System W E) :
    (conclude r σ).value = (conclude r τ).value := by
  cases r <;> rfl

@[simp] theorem conclude_world (r : RequestRun E Progress) (σ : System W E) :
    (conclude r σ).world = σ := by
  cases r with
  | finished p => simp [conclude]
  | panicked reason => rfl
  | waiting before line rest handle wake => rfl

/-- A request is finished when its lines are, whether or not it has a deadline. -/
theorem request_finished {deadline : Option Nat} {text : String} {p : Progress}
    {σ τ : System W E} {logs : List LogEntry}
    (h : s.runLines none deadline mode (Text.lines text) {} σ = ⟨.finished p, τ, logs⟩) :
    s.request none deadline text mode σ =
      ⟨.finished p.result, τ,
        .span "highlight" (spanFields text mode) :: (logs ++ (logSummary p τ).logs)⟩ := by
  simp [request, Act.write, h, conclude]

section Highlight

variable {σ τ : System W E} {text : String} {outcomes : List (Except Error EngineResult)}
  {logs : List LogEntry}

theorem InTurn.highlight_value (h : s.InTurn mode σ (Text.lines text) outcomes τ logs) :
    (s.highlight text mode σ).value = .finished (stitched (Text.lines text) outcomes) := by
  rw [highlight, request_finished (h.runLines {}), Progress.recordAll_result h.length_eq]

theorem InTurn.highlight_world (h : s.InTurn mode σ (Text.lines text) outcomes τ logs) :
    (s.highlight text mode σ).world = τ := by
  rw [highlight, request_finished (h.runLines {})]

end Highlight

/-- What a request without a deadline makes of a text, line by line. -/
structure HighlightSpec (s : Segments W C E) (text : String) (mode : Mode) (σ : System W E)
    (outcomes : List (Except Error EngineResult)) (result : HighlightResult) : Prop where
  lines_length : (Text.lines text).length = text.toList.count '\n' + 1
  lines_join : "\n".intercalate (Text.lines text) = text
  lines_whole : ∀ line ∈ Text.lines text, '\n' ∉ line.toList
  inTurn : ∃ logs, s.InTurn mode σ (Text.lines text) outcomes (s.highlight text mode σ).world logs
  value_eq : result.value = String.join (List.zipWith piece (Text.lines text) outcomes)
  relevance_eq : result.relevance =
    min (2 ^ 32 - 1) ((marked outcomes).map EngineResult.relevance).sum
  illegal_iff : result.illegal = true ↔ ∃ r, .ok r ∈ outcomes ∧ r.illegal = true
  language_eq : result.language = "mixed"

/-- A request whose calls return is finished, and its result is the one its lines make. -/
theorem highlight_spec (h : s.loader.runtime.CallsReturn) (text : String) (mode : Mode)
    (σ : System W E) :
    ∃ outcomes result, (s.highlight text mode σ).value = .finished result ∧
      HighlightSpec s text mode σ outcomes result := by
  obtain ⟨outcomes, τ, logs, hturns⟩ := exists_inTurn h mode (Text.lines text) σ
  refine ⟨outcomes, stitched (Text.lines text) outcomes, hturns.highlight_value, ?_⟩
  refine ⟨Text.length_lines text, Text.intercalate_lines text,
    fun _ => Text.not_mem_of_mem_lines, ?_, rfl, rfl, ?_, rfl⟩
  · rw [hturns.highlight_world]
    exact ⟨logs, hturns⟩
  · simp only [stitched, List.any_eq_true, mem_marked]

/-- The first line finds no engine and is kept, the second one is marked up. -/
theorem highlight_spec_two_lines :
    World.echoing.loader.runtime.CallsReturn ∧
      ∃ outcomes result, HighlightSpec World.echoing "a\nb" .automatic (World.unloaded 1)
          outcomes result ∧ result = ⟨"a\n<span>b</span>\n ", false, "mixed", 1⟩ := by
  refine ⟨World.echoing_callsReturn, ?_⟩
  obtain ⟨outcomes, result, hvalue, hspec⟩ :=
    highlight_spec World.echoing_callsReturn "a\nb" .automatic (World.unloaded 1)
  exact ⟨outcomes, result, hspec, (RequestRun.finished.inj hvalue).symm⟩

end Segments

end LineHighlight
