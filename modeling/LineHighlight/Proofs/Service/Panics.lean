import LineHighlight.Proofs.Highlighter.Alike
import LineHighlight.Proofs.Highlighter.Deadline
import LineHighlight.Proofs.Highlighter.Punctual
import LineHighlight.Proofs.Service.Marks

/-! Requests to a service whose engine may panic.
A panic ends its request: the caller gets the text back, the gate and the engine's lock are given
back with a mark that makes no difference to anyone, and the loader is left as the line whose call
panicked has found it. So the engine stays if that line made it. Later requests find what they
would find if the request had ended before that line, unless the runtime remembers the call, or
would not make an engine again. -/

namespace LineHighlight

open HighlightResult

/-! ## Calls -/

namespace World

variable {respond : Responder} {read : Reading} {settings : EngineSettings}
  {σ τ : System World EngineRef} {mode : Mode}

/-- A line without an outcome panicked in its call. -/
theorem run_stops {line : String}
    (h : ∀ outcome, ((answering respond read settings).run none mode line σ).value ≠
      .done outcome) :
    ∃ handle reason,
      ((answering respond read settings).loader.acquire σ).value = .ok handle ∧
      ((answering respond read settings).run none mode line σ).value = .panicked reason ∧
      (respond σ.world.scripted.asked (mode.callOn line)).outcome = .panicked reason ∧
      ((answering respond read settings).run none mode line σ).world =
        afterPanic respond (mode.callOn line)
          ((answering respond read settings).loader.acquire σ).world := by
  cases hacquire : ((answering respond read settings).loader.acquire σ).value with
  | error e => exact absurd (Segments.run_unavailable _ none mode line hacquire).1 (h _)
  | ok handle =>
      cases hanswer : (respond ((answering respond read settings).loader.acquire
          σ).world.world.scripted.asked (mode.callOn line)).outcome with
      | returned answer => exact absurd (run_returned mode line hacquire rfl hanswer).1 (h _)
      | panicked reason =>
          obtain ⟨hvalue, hworld⟩ := run_panicked mode line hacquire rfl hanswer
          rw [(acquire_asked respond read settings σ).1] at hanswer
          exact ⟨handle, reason, rfl, hvalue, hanswer, hworld⟩

theorem run_calls {line : String} {outcome : Except Error EngineResult}
    (h : ((answering respond read settings).run none mode line σ).value = .done outcome) :
    ∃ block, ((answering respond read settings).run none mode line σ).world.world.scripted.calls =
        σ.world.scripted.calls ++ block ∧ block.Sublist [mode.callOn line] := by
  cases hacquire : ((answering respond read settings).loader.acquire σ).value with
  | error e =>
      refine ⟨[], ?_, List.nil_sublist _⟩
      rw [(Segments.run_unavailable _ none mode line hacquire).2,
        (acquire_asked respond read settings σ).2, List.append_nil]
  | ok handle =>
      cases hanswer : (respond ((answering respond read settings).loader.acquire
          σ).world.world.scripted.asked (mode.callOn line)).outcome with
      | panicked reason =>
          have hpanic := (run_panicked mode line hacquire rfl hanswer).1
          rw [h] at hpanic
          cases hpanic
      | returned answer =>
          rw [(run_returned mode line hacquire rfl hanswer).2]
          simp only [withCall, afterCall, (acquire_asked respond read settings σ).2]
          split
          · exact ⟨[mode.callOn line], rfl, .refl _⟩
          · exact ⟨[], (List.append_nil _).symm, List.nil_sublist _⟩

theorem inTurn_calls {lines : List String} {outcomes : List (Except Error EngineResult)}
    {logs : List LogEntry}
    (h : (answering respond read settings).InTurn mode σ lines outcomes τ logs) :
    ∃ block, τ.world.scripted.calls = σ.world.scripted.calls ++ block ∧
      block.Sublist (lines.map mode.callOn) := by
  induction h with
  | nil σ => exact ⟨[], (List.append_nil _).symm, List.nil_sublist _⟩
  | cons hline _ ih =>
      obtain ⟨block, hcalls, hblock⟩ := run_calls hline
      obtain ⟨others, hothers, hrest⟩ := ih
      refine ⟨block ++ others, ?_, hblock.append hrest⟩
      rw [hothers, hcalls, List.append_assoc]

/-- Systems in which every line finds the same have seen the same calls. -/
theorem calls_eq_of_alike (h : Alike respond read settings τ σ) :
    τ.world.scripted.calls = σ.world.scripted.calls := by
  have hworld := (System.unmarked_eq_iff.mp h.world_eq).2
  calc τ.world.scripted.calls
      = ((answering respond read settings).loader.acquire τ).world.world.bare.scripted.calls :=
        (acquire_asked respond read settings τ).2.symm
    _ = ((answering respond read settings).loader.acquire σ).world.world.bare.scripted.calls :=
        by rw [hworld]
    _ = σ.world.scripted.calls := (acquire_asked respond read settings σ).2

end World

/-! ## One request -/

/-- What a panic in the call for line number `i` leaves behind. -/
structure PanicSpec (respond : Responder) (s : Segments World Nat EngineRef) (text : String)
    (mode : Mode) (σ : System World EngineRef) (i : Nat) (line : String)
    (τ : System World EngineRef) : Prop where
  line_eq : (Text.lines text)[i]? = some line
  before : ∃ first, (s.highlightFirst i text mode σ).value = .finished first
  panics : ∃ reason,
    (s.run none mode line (s.highlightFirst i text mode σ).world).value = .panicked reason
  acquired : ∃ handle,
    (s.loader.acquire (s.highlightFirst i text mode σ).world).value = .ok handle
  /-- The slot of the loader and the number of attempts are those that the panicking call found. -/
  system_eq : τ = World.afterPanic respond (mode.callOn line)
    (s.loader.acquire (s.highlightFirst i text mode σ).world).world
  calls_eq : ∃ block, τ.world.scripted.calls = σ.world.scripted.calls ++ block ∧
    (s.highlightFirst i text mode σ).world.world.scripted.calls = σ.world.scripted.calls ++ block ∧
    block.Sublist (((Text.lines text).take i).map mode.callOn)

/-- What becomes of a request, and of the service that it is made to. -/
structure RequestSpec (respond : Responder) (s : Segments World Nat EngineRef) (text : String)
    (mode : Mode) (σ : ServiceState World EngineRef) (result : HighlightResult)
    (τ : ServiceState World EngineRef) : Prop where
  ended : (∃ whole, (s.highlight text mode σ.system).value = .finished whole) ∨
    ∃ reason, (s.highlight text mode σ.system).value = .panicked reason
  /-- All locks are given back as they were. -/
  finished : ∀ whole, (s.highlight text mode σ.system).value = .finished whole →
    result = whole ∧ τ = { σ with system := (s.highlight text mode σ.system).world } ∧
      τ.system.loader.lock = σ.system.loader.lock ∧
      τ.system.loader.engineLock = σ.system.loader.engineLock
  /-- The gate and the engine's lock are given back with a mark. -/
  panicked : ∀ reason, (s.highlight text mode σ.system).value = .panicked reason →
    result = unhighlighted text ∧ τ = { σ with system := τ.system, gate := σ.gate.poison } ∧
      τ.system.loader.lock = σ.system.loader.lock ∧
      τ.system.loader.engineLock = σ.system.loader.engineLock.poison ∧
      ∃ i line, PanicSpec respond s text mode σ.system i line τ.system

namespace Segments

variable {C E : Type} {s : Segments World C E}

theorem request_punctual (hclock : s.clock = World.clock) {deadline : Nat} {text : String}
    {mode : Mode} {σ : System World E}
    (h : (s.runLines (some deadline) (some deadline) mode (Text.lines text) {} σ).value.Punctual) :
    s.request (some deadline) (some deadline) text mode σ = s.highlight text mode σ := by
  simp only [highlight, request, Act.bind_apply, Act.write, runLines_punctual hclock rfl h]

theorem highlight_ended {text : String} {mode : Mode} {σ : System World E}
    (h : (s.runLines none none mode (Text.lines text) {} σ).value.Punctual) :
    (∃ whole, (s.highlight text mode σ).value = .finished whole) ∨
      ∃ reason, (s.highlight text mode σ).value = .panicked reason := by
  cases hrun : (s.runLines none none mode (Text.lines text) {} σ).value with
  | finished p => exact .inl ⟨p.result, by simp [highlight, request, Act.write, hrun, conclude]⟩
  | panicked reason => exact .inr ⟨reason, by simp [highlight, request, Act.write, hrun, conclude]⟩
  | waiting =>
      rw [hrun] at h
      exact h.elim

end Segments

/-- No request is at work or waits for its turn, and every lock is free. -/
structure ServiceState.Idle {W E : Type} (σ : ServiceState W E) : Prop where
  straggler_eq : σ.straggler = none
  queue_eq : σ.queue = []
  gate_free : σ.gate.isHeld = false
  lock_free : σ.system.loader.lock.isHeld = false
  engineLock_free : σ.system.loader.engineLock.isHeld = false

namespace Service

variable {C E : Type} {s : Service World C E} {σ : ServiceState World E} {text : String}
  {mode : Mode}

/-- No line of the request is late and no call outlasts the budget. -/
def Punctual (s : Service World C E) (text : String) (mode : Mode) (σ : ServiceState World E) :
    Prop :=
  let deadline := σ.system.world.now + s.budget
  (s.segments.runLines (some deadline) (some deadline) mode (Text.lines text) {}
    σ.system).value.Punctual

theorem Punctual.budget_ne_zero (hclock : s.segments.clock = World.clock)
    (h : s.Punctual text mode σ) : s.budget ≠ 0 := by
  intro hbudget
  have hlate : σ.system.world.now + s.budget ≤ σ.system.world.now := by omega
  rw [Punctual, Segments.runLines_past hclock hlate] at h
  have hskipped := Progress.skipAll_skipped {} (Text.lines text)
  have hlines := List.length_pos_iff.mpr (Text.lines_ne_nil text)
  exact absurd (hskipped.symm.trans h) (by simp only; omega)

theorem highlightText_idle (hclock : s.segments.clock = World.clock) (hidle : σ.Idle)
    (h : s.Punctual text mode σ) :
    (s.highlightText text mode σ).value =
        (s.takeTurn text mode (σ.system.world.now + s.budget) σ).value ∧
      (s.highlightText text mode σ).world =
        (s.takeTurn text mode (σ.system.world.now + s.budget) σ).world := by
  have hbudget := h.budget_ne_zero hclock
  obtain ⟨system, straggler, queue, gate⟩ := σ
  obtain ⟨rfl, rfl, -, -, -⟩ := hidle
  simp [highlightText, now, ServiceState.inWorld, ServiceState.inSystem, System.inWorld, Act.on,
    hclock, World.clock, hbudget]

/-- The caller gets the result, or the text back after a panic, which leaves a mark on the gate. -/
theorem highlightText_punctual (hclock : s.segments.clock = World.clock) (hidle : σ.Idle)
    (h : s.Punctual text mode σ) :
    (s.highlightText text mode σ).world =
        { σ with
          system := (s.segments.highlight text mode σ.system).world
          gate := σ.gate.after (s.segments.highlight text mode σ.system).value.hold } ∧
      ((∃ whole, (s.segments.highlight text mode σ.system).value = .finished whole ∧
          (s.highlightText text mode σ).value = whole) ∨
        ∃ reason, (s.segments.highlight text mode σ.system).value = .panicked reason ∧
          (s.highlightText text mode σ).value = unhighlighted text) := by
  obtain ⟨hvalue, hworld⟩ := highlightText_idle hclock hidle h
  have hrequest := Segments.request_punctual hclock h
  have hlines := Segments.runLines_punctual hclock rfl h
  rw [hvalue, hworld]
  rw [Punctual, hlines] at h
  have hended := Segments.highlight_ended h
  simp only [takeTurn, ServiceState.atGate, ServiceState.modifyGate, ServiceState.inSystem, Act.on,
    Act.bind_apply, Act.get_apply, Act.modify_apply, Act.pure_apply, hrequest]
  rcases hended with ⟨whole, hwhole⟩ | ⟨reason, hpanic⟩
  · simp only [hwhole]
    exact ⟨rfl, .inl ⟨whole, rfl, rfl⟩⟩
  · simp only [hpanic]
    exact ⟨rfl, .inr ⟨reason, rfl, rfl⟩⟩

theorem Punctual.idle (hclock : s.segments.clock = World.clock) (h : s.Punctual text mode σ)
    (hidle : σ.Idle) : (s.highlightText text mode σ).world.Idle := by
  obtain ⟨hworld, hended⟩ := highlightText_punctual hclock hidle h
  obtain ⟨hlock, hengine⟩ :=
    s.segments.request_locks none none text mode σ.system
  rw [hworld]
  have hfree : ∀ lock : Lock, lock.isHeld = false →
      (lock.after (s.segments.highlight text mode σ.system).value.hold).isHeld = false := by
    intro lock hlock
    rcases hended with ⟨whole, hwhole, -⟩ | ⟨reason, hpanic, -⟩
    · rw [hwhole]; exact hlock
    · rw [hpanic]; exact hlock
  exact ⟨hidle.straggler_eq, hidle.queue_eq, hfree _ hidle.gate_free,
    (congrArg Lock.isHeld hlock).trans hidle.lock_free,
    (congrArg Lock.isHeld hengine).trans (hfree _ hidle.engineLock_free)⟩

/-! ## All requests -/

def highlightTexts (s : Service World C E) :
    List (String × Mode) → Act (ServiceState World E) (List HighlightResult)
  | [] => return []
  | (text, mode) :: rest => do
    let first ← s.highlightText text mode
    let others ← s.highlightTexts rest
    return first :: others

/-- Marks on locks make no difference to requests. -/
theorem agree_highlightTexts (s : Service World C E) (requests : List (String × Mode)) :
    ServiceState.Agree (s.highlightTexts requests) (s.highlightTexts requests) := by
  induction requests with
  | nil => exact Act.agree_pure []
  | cons request rest ih =>
      exact (s.agree_highlightText request.1 request.2).bind fun _ => ih.bind fun _ =>
        Act.agree_pure _

/-- No request is late or times out when its turn has come. -/
def InTime (s : Service World C E) : List (String × Mode) → ServiceState World E → Prop
  | [], _ => True
  | (text, mode) :: rest, σ =>
    s.Punctual text mode σ ∧ s.InTime rest (s.highlightText text mode σ).world

theorem InTime.after (hclock : s.segments.clock = World.clock) {first rest : List (String × Mode)}
    (h : s.InTime (first ++ rest) σ) (hidle : σ.Idle) :
    s.InTime rest (s.highlightTexts first σ).world ∧ (s.highlightTexts first σ).world.Idle := by
  induction first generalizing σ with
  | nil => exact ⟨h, hidle⟩
  | cons request first ih =>
      obtain ⟨text, mode⟩ := request
      exact ih h.2 (h.1.idle hclock hidle)

end Service

namespace World

variable {respond : Responder} {read : Reading} {settings : EngineSettings} {budget : Nat}

def answeringService (respond : Responder) (read : Reading) (settings : EngineSettings)
    (budget : Nat) : Service World Nat EngineRef where
  segments := answering respond read settings
  budget := budget

section Request

variable {text : String} {mode : Mode}

theorem panicSpec {σ : System World EngineRef} {first rest : List String} {line : String}
    {outcomes : List (Except Error EngineResult)} {υ : System World EngineRef}
    {logs : List LogEntry} (htext : Text.lines text = first ++ line :: rest)
    (hfirst : (answering respond read settings).InTurn mode σ first outcomes υ logs)
    (hstop : ∀ outcome, ((answering respond read settings).run none mode line υ).value ≠
      .done outcome) :
    PanicSpec respond (answering respond read settings) text mode σ first.length line
      ((answering respond read settings).highlight text mode σ).world := by
  obtain ⟨handle, reason, hacquire, hpanic, -, hworld⟩ := run_stops hstop
  have hend := (hfirst.highlight_panicked hpanic htext).2.trans hworld
  have htake : (Text.lines text).take first.length = first := by simp [htext]
  rw [← htake] at hfirst
  have hυ := hfirst.highlightFirst_world
  obtain ⟨block, hcalls, hblock⟩ := inTurn_calls hfirst
  refine ⟨by simp [htext], ⟨_, hfirst.highlightFirst_value⟩, ⟨reason, ?_⟩, ⟨handle, ?_⟩, ?_,
    block, ?_, ?_, hblock⟩
  · rw [hυ, hpanic]
  · rw [hυ, hacquire]
  · rw [hυ, hend]
  · rw [hend, ← hcalls, afterPanic_calls, (acquire_asked respond read settings υ).2]
  · rw [hυ, hcalls]

theorem requestSpec {σ : ServiceState World EngineRef} (hidle : σ.Idle)
    (h : (answeringService respond read settings budget).Punctual text mode σ) :
    RequestSpec respond (answering respond read settings) text mode σ
      ((answeringService respond read settings budget).highlightText text mode σ).value
      ((answeringService respond read settings budget).highlightText text mode σ).world := by
  obtain ⟨hworld, hvalue⟩ := Service.highlightText_punctual rfl hidle h
  obtain ⟨hlock, hengine⟩ :=
    (answering respond read settings).request_locks none none text mode σ.system
  rw [hworld]
  rcases hvalue with ⟨whole, hwhole, hresult⟩ | ⟨reason, hpanic, hresult⟩
  · refine ⟨.inl ⟨whole, hwhole⟩, fun other hother => ?_, fun reason hpanic => ?_⟩
    · obtain rfl := RequestRun.finished.inj (hwhole.symm.trans hother)
      exact ⟨hresult, by rw [hwhole]; rfl, hlock,
        hengine.trans (congrArg (Lock.after _ ·.hold) hwhole)⟩
    · cases hwhole.symm.trans hpanic
  · refine ⟨.inr ⟨reason, hpanic⟩, fun whole hwhole => ?_, fun _ _ =>
      ⟨hresult, by rw [hpanic]; rfl, hlock,
        hengine.trans (congrArg (Lock.after _ ·.hold) hpanic), ?_⟩⟩
    · cases hwhole.symm.trans hpanic
    · rcases Segments.inTurn_or_stops (answering respond read settings) mode (Text.lines text)
        σ.system with
        ⟨outcomes, υ, logs, hturns⟩ | ⟨first, line, rest, outcomes, υ, logs, htext, hfirst, hstop⟩
      · cases hturns.highlight_value.symm.trans hpanic
      · exact ⟨_, line, panicSpec htext hfirst hstop⟩

end Request

/-! ## As if nothing had happened -/

/-- Requests without a limit, each of which either ends or consists of the lines before the one
whose call panics. -/
inductive AsIf (s : Segments World Nat EngineRef) : System World EngineRef →
    List (String × Mode) → List HighlightResult → System World EngineRef → Prop
  | nil (σ : System World EngineRef) : AsIf s σ [] [] σ
  | whole {σ τ : System World EngineRef} {text : String} {mode : Mode} {result : HighlightResult}
      {requests : List (String × Mode)} {results : List HighlightResult}
      (h : (s.highlight text mode σ).value = .finished result)
      (hrest : AsIf s (s.highlight text mode σ).world requests results τ) :
      AsIf s σ ((text, mode) :: requests) (result :: results) τ
  | cut {σ τ : System World EngineRef} {text : String} {mode : Mode} {first : HighlightResult}
      {requests : List (String × Mode)} {results : List HighlightResult} {i : Nat}
      {line reason : String} (hline : (Text.lines text)[i]? = some line)
      (hfirst : (s.highlightFirst i text mode σ).value = .finished first)
      (hpanic : (s.run none mode line (s.highlightFirst i text mode σ).world).value =
        .panicked reason)
      (hrest : AsIf s (s.highlightFirst i text mode σ).world requests results τ) :
      AsIf s σ ((text, mode) :: requests) (unhighlighted text :: results) τ

/-- A request with a result leads to a system that is like another one, and may be followed by
further requests. -/
def LeadsTo (respond : Responder) (read : Reading) (settings : EngineSettings)
    (υ : System World EngineRef) (request : String × Mode) (result : HighlightResult)
    (σ : System World EngineRef) : Prop :=
  ∃ ω, Alike respond read settings ω σ ∧
    ∀ requests results τ, AsIf (answering respond read settings) ω requests results τ →
      AsIf (answering respond read settings) υ (request :: requests) (result :: results) τ

section Step

variable {σ : ServiceState World EngineRef} {υ : System World EngineRef} {text : String}
  {mode : Mode}

/-- A request all of whose lines have an outcome ends in both systems, in the same way. -/
theorem leadsTo_whole (hidle : σ.Idle)
    (h : (answeringService respond read settings budget).Punctual text mode σ)
    (halike : Alike respond read settings υ σ.system) {outcomes : List (Except Error EngineResult)}
    {ω : System World EngineRef} {logs : List LogEntry}
    (hturns : (answering respond read settings).InTurn mode σ.system (Text.lines text) outcomes ω
      logs) :
    LeadsTo respond read settings υ (text, mode)
      ((answeringService respond read settings budget).highlightText text mode σ).value
      ((answeringService respond read settings budget).highlightText text mode
        σ).world.system := by
  obtain ⟨hworld, hvalue⟩ := Service.highlightText_punctual rfl hidle h
  obtain ⟨ω', logs', hturns', halike'⟩ := halike.inTurn hturns
  have hresult : ((answeringService respond read settings budget).highlightText text mode
      σ).value = stitched (Text.lines text) outcomes := by
    rcases hvalue with ⟨whole, hwhole, hresult⟩ | ⟨reason, hpanic, -⟩
    · rw [hresult]
      exact RequestRun.finished.inj (hwhole.symm.trans hturns.highlight_value)
    · cases hpanic.symm.trans hturns.highlight_value
  refine ⟨ω', ?_, fun requests results τ hrest => ?_⟩
  · rw [hworld]
    exact hturns.highlight_world ▸ halike'
  · rw [hresult]
    exact .whole hturns'.highlight_value (hturns'.highlight_world ▸ hrest)

/-- A request with a line whose call panics leaves what its lines before that one leave. -/
theorem leadsTo_cut (hforgets : respond.Forgets) (hidle : σ.Idle)
    (h : (answeringService respond read settings budget).Punctual text mode σ)
    (halike : Alike respond read settings υ σ.system) {first later : List String} {line : String}
    (htext : Text.lines text = first ++ line :: later)
    {outcomes : List (Except Error EngineResult)} {ω : System World EngineRef}
    {logs : List LogEntry}
    (hfirst : (answering respond read settings).InTurn mode σ.system first outcomes ω logs)
    (hstop : ∀ outcome, ((answering respond read settings).run none mode line ω).value ≠
      .done outcome) :
    LeadsTo respond read settings υ (text, mode)
      ((answeringService respond read settings budget).highlightText text mode σ).value
      ((answeringService respond read settings budget).highlightText text mode
        σ).world.system := by
  obtain ⟨hworld, hvalue⟩ := Service.highlightText_punctual rfl hidle h
  obtain ⟨ω', logs', hfirst', halike'⟩ := halike.inTurn hfirst
  obtain ⟨handle, reason, hacquire, hpanic, hanswer, hleft⟩ := run_stops hstop
  have hend := hfirst.highlight_panicked hpanic htext
  have hresult : ((answeringService respond read settings budget).highlightText text mode
      σ).value = unhighlighted text := by
    rcases hvalue with ⟨whole, hwhole, -⟩ | ⟨_, -, hresult⟩
    · cases hwhole.symm.trans hend.1
    · exact hresult
  have htake : (Text.lines text).take first.length = first := by simp [htext]
  rw [← htake] at hfirst'
  refine ⟨ω', ?_, fun requests results τ hrest => ?_⟩
  · rw [hworld]
    exact halike'.trans (.of_panic hforgets hacquire hanswer (hend.2.trans hleft))
  · rw [hresult]
    have hline : (Text.lines text)[first.length]? = some line := by simp [htext]
    exact .cut hline hfirst'.highlightFirst_value
      (hfirst'.highlightFirst_world ▸ (halike'.run mode line).1.trans hpanic)
      (hfirst'.highlightFirst_world ▸ hrest)

end Step

/-- Requests leave what they would leave if those that panic had stopped before. The two systems
stay alike from one request to the next. -/
theorem exists_asIf (hforgets : respond.Forgets) {requests : List (String × Mode)}
    {σ : ServiceState World EngineRef} {υ : System World EngineRef} (hidle : σ.Idle)
    (h : (answeringService respond read settings budget).InTime requests σ)
    (halike : Alike respond read settings υ σ.system) :
    ∃ τ, AsIf (answering respond read settings) υ requests
        ((answeringService respond read settings budget).highlightTexts requests σ).value τ ∧
      Alike respond read settings τ
        ((answeringService respond read settings budget).highlightTexts requests
          σ).world.system := by
  induction requests generalizing σ υ with
  | nil => exact ⟨υ, .nil υ, halike⟩
  | cons request rest ih =>
      obtain ⟨text, mode⟩ := request
      have hnext := h.1.idle rfl hidle
      obtain ⟨ω, hsame, hstep⟩ : LeadsTo respond read settings υ (text, mode)
          ((answeringService respond read settings budget).highlightText text mode σ).value
          ((answeringService respond read settings budget).highlightText text mode
            σ).world.system := by
        rcases Segments.inTurn_or_stops (answering respond read settings) mode (Text.lines text)
          σ.system with
          ⟨outcomes, ω, logs, hturns⟩ | ⟨first, line, later, outcomes, ω, logs, htext, hrest⟩
        · exact leadsTo_whole hidle h.1 halike hturns
        · exact leadsTo_cut hforgets hidle h.1 halike htext hrest.1 hrest.2
      obtain ⟨τ, hrest, hτ⟩ := ih hnext h.2 hsame
      exact ⟨τ, hstep _ _ _ hrest, hτ⟩

/-- What holds of requests to a service of which none is late and none times out. -/
structure RequestsSpec (respond : Responder) (read : Reading) (settings : EngineSettings)
    (budget : Nat) (requests : List (String × Mode)) (σ : ServiceState World EngineRef) :
    Prop where
  /-- All locks are free in the end. -/
  idle : ((answeringService respond read settings budget).highlightTexts requests σ).world.Idle
  /-- Each request, in the state that the requests before it have left. -/
  each : ∀ first text mode later, requests = first ++ (text, mode) :: later →
    let before :=
      ((answeringService respond read settings budget).highlightTexts first σ).world
    RequestSpec respond (answering respond read settings) text mode before
      ((answeringService respond read settings budget).highlightText text mode before).value
      ((answeringService respond read settings budget).highlightText text mode before).world
  /-- Marks on locks make no difference to any request, and none to what it leaves. -/
  unmarked : ∀ σ', σ'.unmarked = σ.unmarked →
    ((answeringService respond read settings budget).highlightTexts requests σ').value =
        ((answeringService respond read settings budget).highlightTexts requests σ).value ∧
      ((answeringService respond read settings budget).highlightTexts requests σ').world.unmarked =
        ((answeringService respond read settings budget).highlightTexts requests σ).world.unmarked
  /-- If calls that panic do not show in later answers, the results and the calls are those of
  requests that stop before the panics, and what is left is the same for every line to come. -/
  asIf : respond.Forgets →
    ∃ τ, AsIf (answering respond read settings) σ.system requests
        ((answeringService respond read settings budget).highlightTexts requests σ).value τ ∧
      Alike respond read settings τ
        ((answeringService respond read settings budget).highlightTexts requests σ).world.system ∧
      τ.world.scripted.calls =
        ((answeringService respond read settings budget).highlightTexts requests
          σ).world.system.world.scripted.calls

theorem highlightTexts_spec (respond : Responder) (read : Reading) (settings : EngineSettings)
    (budget : Nat) {requests : List (String × Mode)} {σ : ServiceState World EngineRef}
    (hidle : σ.Idle) (h : (answeringService respond read settings budget).InTime requests σ) :
    RequestsSpec respond read settings budget requests σ where
  idle := by
    rw [← requests.append_nil] at h
    exact (h.after rfl hidle).2
  each first text mode later hrequests := by
    subst hrequests
    obtain ⟨hlater, hidle'⟩ := h.after rfl hidle
    exact requestSpec hidle' hlater.1
  unmarked σ' hσ' :=
    ⟨(Service.agree_highlightTexts _ requests).value_eq hσ',
      (Service.agree_highlightTexts _ requests).world_eq hσ'⟩
  asIf hforgets := by
    obtain ⟨τ, hasIf, halike⟩ := exists_asIf hforgets hidle h (.refl σ.system)
    exact ⟨τ, hasIf, halike, calls_eq_of_alike halike⟩

/-- The first call panics, in the line that makes the engine. The line behind it is not run, and
the next request finds the engine. -/
theorem highlightTexts_spec_first_call :
    let respond : Responder := fun _ call =>
      if call.text = "boom" then { outcome := .panicked "crash" } else Scripted.echo call
    let requests := [("boom\nb", Mode.automatic), ("c", .automatic)]
    RequestsSpec respond inMemory {} 10 requests { system := unloaded 0 } ∧
      ((answeringService respond inMemory {} 10).highlightTexts requests
        { system := unloaded 0 }).value =
        [⟨"boom\nb\n", false, "mixed", 0⟩, ⟨"<span>c</span>\n ", false, "mixed", 1⟩] :=
  ⟨highlightTexts_spec _ inMemory {} 10 ⟨rfl, rfl, rfl, rfl, rfl⟩ ⟨trivial, rfl, trivial⟩, rfl⟩

/-- A service whose next context fails. -/
def failNext (σ : ServiceState World EngineRef) : ServiceState World EngineRef :=
  let w := σ.system.world
  { σ with
    system := { σ.system with world := { w with scripted := { w.scripted with failing := 1 } } } }

/-- A panic may show later. A runtime that counts its calls remembers the one that panicked: no
requests that stop before it have the same results. And the engine that was made for that call is
there for the next request, even if no engine can be made any more. -/
theorem panic_shows :
    let counting : Responder := .stateful 0 fun n call =>
      (if n = 0 then { outcome := .panicked "crash" } else Scripted.echo call, n + 1)
    let crashing : Responder := fun _ call =>
      if call.text = "boom" then { outcome := .panicked "crash" } else Scripted.echo call
    let requests := [("boom", Mode.automatic), ("c", .automatic)]
    let start : ServiceState World EngineRef := { system := unloaded 0 }
    (start.Idle ∧ (answeringService counting inMemory {} 10).InTime requests start ∧
        ¬ ∃ τ, AsIf (answering counting inMemory {}) start.system requests
          ((answeringService counting inMemory {} 10).highlightTexts requests start).value τ) ∧
      ((answering crashing inMemory {}).highlightFirst 0 "boom" .automatic
        start.system).world = start.system ∧
      ((answeringService crashing inMemory {} 10).highlightText "c" .automatic (failNext
        ((answeringService crashing inMemory {} 10).highlightText "boom" .automatic
          start).world)).value = ⟨"<span>c</span>\n ", false, "mixed", 1⟩ ∧
      ((answeringService crashing inMemory {} 10).highlightText "c" .automatic
        (failNext start)).value = ⟨"c\n", false, "mixed", 0⟩ := by
  refine ⟨⟨⟨rfl, rfl, rfl, rfl, rfl⟩, ⟨trivial, rfl, trivial⟩, ?_⟩, rfl, rfl, rfl⟩
  rintro ⟨τ, hasIf⟩
  cases hasIf with
  | whole h => cases h
  | @cut _ _ _ _ _ _ _ i line reason hline _ _ hrest =>
      obtain rfl : i = 0 := by
        have hi := (List.getElem?_eq_some_iff.mp hline).1
        exact Nat.lt_one_iff.mp hi
      -- Before the first line nothing was asked, so it is the call for `c` that panics.
      cases hrest with
      | whole h => cases h

end World

end LineHighlight
