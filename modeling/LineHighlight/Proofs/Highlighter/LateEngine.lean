import LineHighlight.Proofs.Highlighter.Answers
import Mathlib.Data.List.Forall2

/-! Requests to an engine that cannot be made at first.
One invariant ties the failures that are left, the state of the loader and the calls to the
lines that were run, across the borders of lines and of requests. -/

namespace LineHighlight

open HighlightResult

/-! ## Requests one after another -/

namespace Segments

variable {W C E : Type}

def highlightAll (s : Segments W C E) :
    List (String × Mode) → Act (System W E) (List (RequestRun E HighlightResult))
  | [] => return []
  | request :: rest => do
    let first ← s.highlight request.1 request.2
    let others ← s.highlightAll rest
    return first :: others

end Segments

/-- The lines of all requests, each with the mode of its request. -/
def requestLines (requests : List (String × Mode)) : List (String × Mode) :=
  requests.flatMap fun request => (Text.lines request.1).map (·, request.2)

/-- The results of requests whose lines had the outcomes. -/
def stitchedAll {E : Type} (requests : List (String × Mode))
    (outcomes : List (List (Except Error EngineResult))) : List (RequestRun E HighlightResult) :=
  List.zipWith (fun request outcomes => .finished (stitched (Text.lines request.1) outcomes))
    requests outcomes

/-- One outcome for each line of each request. -/
abbrev Fits (requests : List (String × Mode))
    (outcomes : List (List (Except Error EngineResult))) : Prop :=
  List.Forall₂ (fun request outcomes => outcomes.length = (Text.lines request.1).length)
    requests outcomes

namespace Segments

variable {W C E : Type} {s : Segments W C E}

/-- An invariant of a system with the lines that were run and their outcomes. -/
abbrev LineInvariant (W E : Type) :=
  List (String × Mode) → List (Except Error EngineResult) → System W E → Prop

/-- Every line has an outcome and keeps the invariant. -/
def Keeps (s : Segments W C E) (I : LineInvariant W E) : Prop :=
  ∀ past outcomes σ mode line, I past outcomes σ →
    ∃ outcome, (s.run none mode line σ).value = .done outcome ∧
      I (past ++ [(line, mode)]) (outcomes ++ [outcome]) (s.run none mode line σ).world

theorem Keeps.lines {I : LineInvariant W E} (h : s.Keeps I) (mode : Mode) (lines : List String)
    {past : List (String × Mode)} {before : List (Except Error EngineResult)} {σ : System W E}
    (hσ : I past before σ) :
    ∃ outcomes τ logs, s.InTurn mode σ lines outcomes τ logs ∧
      I (past ++ lines.map (·, mode)) (before ++ outcomes) τ := by
  induction lines generalizing past before σ with
  | nil => exact ⟨[], σ, [], .nil σ, by simpa using hσ⟩
  | cons line lines ih =>
      obtain ⟨outcome, hline, hnext⟩ := h past before σ mode line hσ
      obtain ⟨outcomes, τ, logs, hrest, hτ⟩ := ih hnext
      exact ⟨outcome :: outcomes, τ, _, .cons hline hrest, by simpa using hτ⟩

theorem Keeps.requests {I : LineInvariant W E} (h : s.Keeps I) (requests : List (String × Mode))
    {past : List (String × Mode)} {before : List (Except Error EngineResult)} {σ : System W E}
    (hσ : I past before σ) :
    ∃ outcomes, Fits requests outcomes ∧
      (s.highlightAll requests σ).value = stitchedAll requests outcomes ∧
      I (past ++ requestLines requests) (before ++ outcomes.flatten)
        (s.highlightAll requests σ).world := by
  induction requests generalizing past before σ with
  | nil => exact ⟨[], List.Forall₂.nil, rfl, by simpa [requestLines, highlightAll] using hσ⟩
  | cons request rest ih =>
      obtain ⟨outcomes, τ, logs, hturns, hτ⟩ := h.lines request.2 (Text.lines request.1) hσ
      obtain ⟨others, hfits, hvalue, hworld⟩ := ih hτ
      have hfirst := hturns.highlight_value
      have hnext := hturns.highlight_world
      refine ⟨outcomes :: others, List.Forall₂.cons hturns.length_eq hfits, ?_, ?_⟩
      · simp [highlightAll, hfirst, hnext, hvalue, stitchedAll]
      · simpa [highlightAll, hnext, requestLines] using hworld

end Segments

/-! ## Failures to be counted down -/

/-- A responder that does not panic. -/
def Responder.returning (delay : List RecordedCall → RecordedCall → Nat)
    (answer : List RecordedCall → RecordedCall → Except Error Json) : Responder :=
  fun before call => { delay := delay before call, outcome := .returned (answer before call) }

namespace World

def callsOf (lines : List (String × Mode)) : List RecordedCall :=
  lines.map fun line => line.2.callOn line.1

@[simp] theorem callsOf_append (lines lines' : List (String × Mode)) :
    callsOf (lines ++ lines') = callsOf lines ++ callsOf lines' :=
  List.map_append

/-- What lines come to that reach an engine with these calls behind it. -/
def answersTo (answer : List RecordedCall → RecordedCall → Except Error Json) :
    List RecordedCall → List (String × Mode) → List (Except Error EngineResult)
  | _, [] => []
  | before, line :: rest =>
    (answer before (line.2.callOn line.1)).bind EngineResult.ofAnswer ::
      answersTo answer (before ++ [line.2.callOn line.1]) rest

theorem answersTo_append (answer : List RecordedCall → RecordedCall → Except Error Json)
    (before : List RecordedCall) (lines lines' : List (String × Mode)) :
    answersTo answer before (lines ++ lines') =
      answersTo answer before lines ++ answersTo answer (before ++ callsOf lines) lines' := by
  induction lines generalizing before with
  | nil => simp [answersTo, callsOf]
  | cons line lines ih => simp [answersTo, ih, callsOf]

def noContext : Error :=
  .contextCreationFailed "scripted context failure"

/-- What lines come to whose first `k` find no engine. -/
def lateOutcomes (answer : List RecordedCall → RecordedCall → Except Error Json) (k : Nat)
    (lines : List (String × Mode)) : List (Except Error EngineResult) :=
  (lines.take k).map (fun _ => .error noContext) ++ answersTo answer [] (lines.drop k)

def failingNext (w : World) (k : Nat) : World :=
  { w with scripted := { failing := k } }

/-- A world with one context, in which the payload was run, and the calls since then. -/
def serving (w : World) (source : String) (calls : List RecordedCall) (now : Nat) : World :=
  { w with
    scripted :=
      { created := 1, evaluated := [source], contexts := [[source]], asked := calls,
        calls := calls }
    now := now }

variable {delay : List RecordedCall → RecordedCall → Nat}
  {answer : List RecordedCall → RecordedCall → Except Error Json} {read : Reading}
  {settings : EngineSettings} {w : World} {source : String} {k : Nat}

/-- Systems in which lines have been run since `k` contexts were due to fail, under the policy
that tries again. -/
inductive Countdown (answer : List RecordedCall → RecordedCall → Except Error Json) (w : World)
    (source : String) (k : Nat) : Segments.LineInvariant World EngineRef
  | failing (past : List (String × Mode)) (h : past.length ≤ k) :
      Countdown answer w source k past (past.map fun _ => .error noContext)
        ⟨{ slot := .empty, attempts := past.length }, w.failingNext (k - past.length)⟩
  | loaded (early late : List (String × Mode)) (h : early.length = k) (hlate : late ≠ [])
      (handle : EngineHandle EngineRef) (now : Nat) :
      Countdown answer w source k (early ++ late)
        (early.map (fun _ => .error noContext) ++ answersTo answer [] late)
        ⟨{ slot := .ready handle, attempts := k + 1 }, w.serving source (callsOf late) now⟩

theorem acquire_failing (respond : Responder) (read : Reading) (settings : EngineSettings)
    (w : World) (n attempts : Nat) :
    ((answering respond read settings).loader.acquire
        ⟨{ slot := .empty, attempts }, w.failingNext (n + 1)⟩).value = .error noContext ∧
      ((answering respond read settings).loader.acquire
        ⟨{ slot := .empty, attempts }, w.failingNext (n + 1)⟩).world =
        ⟨{ slot := Loader.slotAfter settings.loadFailure noContext, attempts := attempts + 1 },
          w.failingNext n⟩ := by
  have hsetUp := setUp_failing respond read settings (w := w.failingNext (n + 1)) (Nat.succ_pos n)
  rw [Loader.acquire_empty _ rfl, Loader.attempt_value, Loader.attempt_world, hsetUp]
  exact ⟨rfl, rfl⟩

theorem acquire_serving (respond : Responder) (attempts : Nat)
    (hpayload : payload read settings w = .ok source)
    (hentry : Text.contains source settings.entryPoint = true) :
    ∃ handle,
      ((answering respond read settings).loader.acquire
        ⟨{ slot := .empty, attempts }, w.failingNext 0⟩).value = .ok handle ∧
      ((answering respond read settings).loader.acquire
        ⟨{ slot := .empty, attempts }, w.failingNext 0⟩).world =
        ⟨{ slot := .ready handle, attempts := attempts + 1 }, w.serving source [] w.now⟩ := by
  obtain ⟨hworld, hvalue⟩ := setUp_read respond (w := w.failingNext 0) rfl hpayload
  rw [if_pos hentry] at hvalue
  rw [Loader.acquire_empty _ rfl, Loader.attempt_value, Loader.attempt_world, hworld, hvalue]
  exact ⟨_, rfl, rfl⟩

theorem run_serving (calls : List RecordedCall) {now : Nat} (mode : Mode) (line : String)
    {state : LoaderState EngineRef} {handle : EngineHandle EngineRef} {σ : System World EngineRef}
    (hacquire : ((answering (.returning delay answer) read settings).loader.acquire σ).value =
      .ok handle)
    (hσ : ((answering (.returning delay answer) read settings).loader.acquire σ).world =
      ⟨state, w.serving source calls now⟩) :
    ((answering (.returning delay answer) read settings).run none mode line σ).value =
        .done ((answer calls (mode.callOn line)).bind EngineResult.ofAnswer) ∧
      ∃ later, ((answering (.returning delay answer) read settings).run none mode line σ).world =
        ⟨state, w.serving source (calls ++ [mode.callOn line]) later⟩ := by
  have hrun := run_returned mode line hacquire hσ rfl
  exact ⟨hrun.1, _, hrun.2⟩

theorem countdown_keeps (delay : List RecordedCall → RecordedCall → Nat)
    (answer : List RecordedCall → RecordedCall → Except Error Json)
    (hpolicy : settings.loadFailure = .retry)
    (hpayload : payload read settings w = .ok source)
    (hentry : Text.contains source settings.entryPoint = true) :
    (answering (.returning delay answer) read settings).Keeps (Countdown answer w source k) := by
  intro past outcomes σ mode line h
  cases h with
  | failing _ hpast =>
      rcases Nat.lt_or_eq_of_le hpast with hlt | heq
      · -- One more context fails.
        obtain ⟨n, hn⟩ : ∃ n, k - past.length = n + 1 := ⟨k - past.length - 1, by omega⟩
        have hacquire := acquire_failing (.returning delay answer) read settings w n past.length
        rw [hn]
        have hrun := Segments.run_unavailable _ none mode line hacquire.1
        refine ⟨_, hrun.1, ?_⟩
        have hnext : Countdown answer w source k _ _ _ :=
          .failing (past ++ [(line, mode)]) (by rw [List.length_append]; exact hlt)
        rw [hrun.2, hacquire.2, hpolicy]
        have hleft : k - (past.length + 1) = n := by omega
        simpa [hleft, Loader.slotAfter] using hnext
      · -- The engine is made for this line.
        obtain ⟨handle, hacquire, hτ⟩ := acquire_serving (w := w) (.returning delay answer)
          past.length hpayload hentry
        have hleft : k - past.length = 0 := by omega
        rw [hleft]
        obtain ⟨hvalue, now, hworld⟩ := run_serving [] mode line hacquire hτ
        refine ⟨_, hvalue, ?_⟩
        rw [hworld, heq]
        exact .loaded past [(line, mode)] heq (by simp) handle now
  | loaded early late hearly _ handle now =>
      have hacquire := (answering (.returning delay answer) read settings).loader.acquire_ready
        (s := ⟨{ slot := .ready handle, attempts := k + 1 },
          w.serving source (callsOf late) now⟩) rfl
      obtain ⟨hvalue, later, hworld⟩ := run_serving (callsOf late) mode line
        (congrArg Effect.value hacquire) (congrArg Effect.world hacquire)
      refine ⟨_, hvalue, ?_⟩
      rw [hworld]
      have hnext : Countdown answer w source k _ _ _ :=
        .loaded early (late ++ [(line, mode)]) hearly (by simp) handle later
      simpa [answersTo_append, answersTo, callsOf] using hnext

theorem Countdown.outcomes_eq {past : List (String × Mode)}
    {outcomes : List (Except Error EngineResult)} {σ : System World EngineRef}
    (h : Countdown answer w source k past outcomes σ) : outcomes = lateOutcomes answer k past := by
  cases h with
  | failing _ hpast =>
      rw [lateOutcomes, List.take_of_length_le hpast, List.drop_of_length_le hpast, answersTo,
        List.append_nil]
  | loaded early late hearly => subst hearly; simp [lateOutcomes]

structure CountedDown (k : Nat) (past : List (String × Mode)) (σ : System World EngineRef) :
    Prop where
  calls_eq : σ.world.scripted.calls = callsOf (past.drop k)
  attempts_eq : σ.loader.attempts = min past.length (k + 1)
  created_eq : σ.world.scripted.created = if k < past.length then 1 else 0

theorem Countdown.countedDown {past : List (String × Mode)}
    {outcomes : List (Except Error EngineResult)} {σ : System World EngineRef}
    (h : Countdown answer w source k past outcomes σ) : CountedDown k past σ := by
  cases h with
  | failing _ hpast =>
      exact ⟨by simp [failingNext, callsOf, hpast], by simp; omega, by simp [failingNext, hpast]⟩
  | loaded early late hearly hlate =>
      subst hearly
      have hpos := List.length_pos_iff.mpr hlate
      exact ⟨by simp [serving], by simp; omega, by simp [serving, hpos]⟩

/-! ## A failure that is kept -/

/-- Systems in which lines have been run since `k + 1` contexts were due to fail, under the
policy that gives up. -/
inductive GaveUp (w : World) (k : Nat) : Segments.LineInvariant World EngineRef
  | untried : GaveUp w k [] [] ⟨{}, w.failingNext (k + 1)⟩
  | failed (past : List (String × Mode)) (hpast : past ≠ [])
      (outcomes : List (Except Error EngineResult))
      (houtcomes : ∀ outcome ∈ outcomes, ∃ e, outcome = .error e) :
      GaveUp w k past outcomes
        ⟨{ slot := .failed noContext.message, attempts := 1 }, w.failingNext k⟩

theorem gaveUp_keeps (respond : Responder) (hpolicy : settings.loadFailure = .failFast) :
    (answering respond read settings).Keeps (GaveUp w k) := by
  intro past outcomes σ mode line h
  cases h with
  | untried =>
      have hacquire := acquire_failing respond read settings w k 0
      have hrun := Segments.run_unavailable _ none mode line hacquire.1
      refine ⟨_, hrun.1, ?_⟩
      rw [hrun.2, hacquire.2, hpolicy]
      exact .failed _ (by simp) _ (by simp)
  | failed _ _ _ houtcomes =>
      have hacquire := (answering respond read settings).loader.acquire_failed
        (s := ⟨{ slot := .failed noContext.message, attempts := 1 }, w.failingNext k⟩) rfl
      have hrun := Segments.run_unavailable (answering respond read settings) none mode line
        (congrArg Effect.value hacquire)
      refine ⟨_, hrun.1, ?_⟩
      rw [hrun.2, hacquire]
      refine .failed _ (by simp) _ fun outcome hmem => ?_
      rcases List.mem_append.mp hmem with hmem | hmem
      · exact houtcomes outcome hmem
      · exact ⟨_, List.mem_singleton.mp hmem⟩

theorem GaveUp.outcomes_failed {past : List (String × Mode)}
    {outcomes : List (Except Error EngineResult)} {σ : System World EngineRef}
    (h : GaveUp w k past outcomes σ) : ∀ outcome ∈ outcomes, ∃ e, outcome = .error e := by
  cases h with
  | untried => simp
  | failed _ _ _ houtcomes => exact houtcomes

theorem GaveUp.world_eq {past : List (String × Mode)}
    {outcomes : List (Except Error EngineResult)} {σ : System World EngineRef}
    (h : GaveUp w k past outcomes σ) (hpast : past ≠ []) :
    σ = ⟨{ slot := .failed noContext.message, attempts := 1 }, w.failingNext k⟩ := by
  cases h with
  | untried => exact absurd rfl hpast
  | failed => rfl

/-! ## All requests -/

theorem stitchedAll_of_errors {E : Type} {requests : List (String × Mode)}
    {outcomes : List (List (Except Error EngineResult))} (hfits : Fits requests outcomes)
    (h : ∀ outcome ∈ outcomes.flatten, ∃ e, outcome = .error e) :
    stitchedAll (E := E) requests outcomes =
      requests.map fun request => .finished (unhighlighted request.1) := by
  induction hfits with
  | nil => rfl
  | cons hlength _ ih =>
      rw [List.flatten_cons, List.forall_mem_append] at h
      rw [List.map_cons, ← ih h.2, ← stitched_of_errors hlength h.1]
      rfl

theorem requestLines_ne_nil {requests : List (String × Mode)} (h : requests ≠ []) :
    requestLines requests ≠ [] := by
  obtain ⟨request, rest, rfl⟩ := List.exists_cons_of_ne_nil h
  simp [requestLines, Text.lines_ne_nil]

/-- What becomes of requests when the first `k` contexts fail. -/
structure LateEngineSpec (s : Segments World Nat EngineRef)
    (answer : List RecordedCall → RecordedCall → Except Error Json) (w : World) (k : Nat)
    (requests : List (String × Mode)) : Prop where
  /-- Each of the first `k` lines uses up one failure, the line behind them makes the engine, and
  the calls are those of the lines from there on. -/
  retry : s.loader.settings.loadFailure = .retry →
    ∃ outcomes, Fits requests outcomes ∧
      (s.highlightAll requests ⟨{}, w.failingNext k⟩).value = stitchedAll requests outcomes ∧
      outcomes.flatten = lateOutcomes answer k (requestLines requests) ∧
      CountedDown k (requestLines requests) (s.highlightAll requests ⟨{}, w.failingNext k⟩).world
  /-- The first failure is the last attempt. -/
  failFast : s.loader.settings.loadFailure = .failFast → 1 ≤ k →
    (s.highlightAll requests ⟨{}, w.failingNext k⟩).value =
        requests.map (fun request => .finished (unhighlighted request.1)) ∧
      (s.highlightAll requests ⟨{}, w.failingNext k⟩).world =
        ⟨{ slot := .failed noContext.message, attempts := 1 }, w.failingNext (k - 1)⟩

theorem highlightAll_spec (delay : List RecordedCall → RecordedCall → Nat)
    (answer : List RecordedCall → RecordedCall → Except Error Json) (read : Reading)
    (settings : EngineSettings) (w : World) (source : String)
    (hpayload : payload read settings w = .ok source)
    (hentry : Text.contains source settings.entryPoint = true) (k : Nat)
    {requests : List (String × Mode)} (hrequests : requests ≠ []) :
    LateEngineSpec (answering (.returning delay answer) read settings) answer w k requests where
  retry hpolicy := by
    have hstart : Countdown answer w source k _ _ _ := .failing [] (Nat.zero_le k)
    obtain ⟨outcomes, hfits, hvalue, hend⟩ :=
      (countdown_keeps delay answer hpolicy hpayload hentry).requests requests hstart
    rw [List.map_nil, List.nil_append, List.nil_append] at hend
    exact ⟨outcomes, hfits, hvalue, hend.outcomes_eq, hend.countedDown⟩
  failFast hpolicy hk := by
    obtain ⟨k, rfl⟩ := Nat.exists_eq_add_of_le' hk
    obtain ⟨outcomes, hfits, hvalue, hend⟩ :=
      (gaveUp_keeps (.returning delay answer) hpolicy).requests requests (GaveUp.untried (w := w))
    exact ⟨hvalue.trans (stitchedAll_of_errors hfits hend.outcomes_failed),
      hend.world_eq (requestLines_ne_nil hrequests)⟩

/-- The engine is not there for the first line and is made for the second one. -/
theorem highlightAll_spec_second_line :
    let delay : List RecordedCall → RecordedCall → Nat := fun _ _ => 0
    let answer : List RecordedCall → RecordedCall → Except Error Json := fun _ call =>
      .ok (Scripted.echo.answer call "plaintext")
    let requests := [("a\nb", Mode.automatic), ("c", .grammar "rust")]
    LateEngineSpec (answering (.returning delay answer) inMemory {}) answer {} 1 requests ∧
      ((answering (.returning delay answer) inMemory {}).highlightAll requests
        ⟨{}, failingNext {} 1⟩).value =
        [.finished ⟨"a\n<span>b</span>\n ", false, "mixed", 1⟩,
          .finished ⟨"<span>c</span>\n ", false, "mixed", 1⟩] :=
  ⟨highlightAll_spec (fun _ _ => 0) (fun _ call => .ok (Scripted.echo.answer call "plaintext"))
    inMemory {} {} "hljs" rfl (by decide) 1 (by decide), rfl⟩

end World

end LineHighlight
