import LineHighlight.Proofs.Engine.Marks
import LineHighlight.Proofs.Highlighter.Answers

/-! Systems that no line can tell apart.
A line begins with the acquisition of the engine, and looks neither at the time nor at the marks on
locks. So what counts of a system is what an acquisition makes of it, and how calls will be answered
after those that were asked. -/

namespace LineHighlight

/-- An engine that was acquired is there for the next acquisition. -/
theorem Loader.acquire_slot {W C E : Type} (l : Loader W C E) {σ : System W E}
    {handle : EngineHandle E} (h : (l.acquire σ).value = .ok handle) :
    (l.acquire σ).world.loader.slot = .ready handle := by
  cases hslot : σ.loader.slot with
  | ready held =>
      rw [l.acquire_ready hslot] at h ⊢
      obtain rfl := Except.ok.inj h
      exact hslot
  | failed reason =>
      rw [l.acquire_failed hslot] at h
      cases h
  | empty =>
      rw [l.acquire_empty hslot] at h ⊢
      rw [attempt_value] at h
      rw [attempt_world]
      cases hsetUp : (l.setUp σ.world).value with
      | error e =>
          rw [hsetUp] at h
          cases h
      | ok engine =>
          rw [hsetUp] at h
          obtain rfl := Except.ok.inj h
          rfl

/-! ## Histories -/

namespace Responder

/-- After the one list of calls and after the other one, calls come out the same. -/
def Agrees (respond : Responder) (asked asked' : List RecordedCall) : Prop :=
  ∀ later call, (respond (asked ++ later) call).outcome = (respond (asked' ++ later) call).outcome

/-- A call that panics makes no difference to how later calls come out. -/
def Forgets (respond : Responder) : Prop :=
  ∀ asked call reason, (respond asked call).outcome = .panicked reason →
    respond.Agrees asked (asked ++ [call])

variable {respond : Responder} {asked asked' asked'' : List RecordedCall}

theorem Agrees.refl (respond : Responder) (asked : List RecordedCall) :
    respond.Agrees asked asked :=
  fun _ _ => rfl

theorem Agrees.trans (h : respond.Agrees asked asked') (h' : respond.Agrees asked' asked'') :
    respond.Agrees asked asked'' :=
  fun later call => (h later call).trans (h' later call)

theorem Agrees.outcome_eq (h : respond.Agrees asked asked') (call : RecordedCall) :
    (respond asked call).outcome = (respond asked' call).outcome := by
  simpa using h [] call

theorem Agrees.snoc (h : respond.Agrees asked asked') (call : RecordedCall) :
    respond.Agrees (asked ++ [call]) (asked' ++ [call]) := by
  intro later other
  simpa using h (call :: later) other

end Responder

namespace World

/-- A world without the time and without the calls that were asked. -/
def bare (w : World) : World :=
  { w with now := 0, scripted := { w.scripted with asked := [] } }

/-- A world at a time and after some calls. -/
def dressed (w : World) (now : Nat) (asked : List RecordedCall) : World :=
  { w with now, scripted := { w.scripted with asked } }

theorem eq_dressed {v w : World} (h : v.bare = w.bare) :
    v = w.dressed v.now v.scripted.asked := by
  have hdressed := congrArg (fun u => u.dressed v.now v.scripted.asked) h
  exact hdressed

/-- An action that looks neither at the time nor at the calls. -/
theorem agree_of_dressed {α : Type} {x : Act World α}
    (h : ∀ w now asked, (x (w.dressed now asked)).seen bare = (x w).seen bare) :
    Act.Agree bare x x := by
  intro v w hvw
  rw [eq_dressed hvw, h]

section Line

variable {respond : Responder} {read : Reading} {settings : EngineSettings}
  {σ τ υ : System World EngineRef} {mode : Mode}

/-- An attempt looks neither at the time nor at the calls. -/
theorem agree_setUp (respond : Responder) (read : Reading) (settings : EngineSettings) :
    Act.Agree bare (answering respond read settings).loader.setUp
      (answering respond read settings).loader.setUp := by
  refine Act.Agree.bind (agree_of_dressed fun w _ _ => ?_) fun created => ?_
  · cases h : w.scripted.failing <;>
      simp [answering, respondingRuntime, Runtime.on, Act.on, Scripted.runtime,
        Scripted.createContext, dressed, Effect.seen, bare, h]
  · cases created with
    | error e => exact Act.agree_pure _
    | ok context =>
        refine (agree_of_dressed fun _ _ _ => rfl).bind fun loaded => ?_
        cases loaded with
        | error e => exact Act.agree_pure _
        | ok source =>
            refine (agree_of_dressed fun _ _ _ => rfl).bind fun evaluated => ?_
            have hlookup : Act.Agree bare
                ((answering respond read settings).loader.runtime.intoEngine context
                  settings.entryPoint)
                ((answering respond read settings).loader.runtime.intoEngine context
                  settings.entryPoint) := by
              refine agree_of_dressed fun w now asked => ?_
              cases h : ((w.scripted.contexts[context]?).getD []).any
                  (Text.contains · settings.entryPoint) <;>
                simp [answering, respondingRuntime, Runtime.on, Act.on, Scripted.runtime,
                  Scripted.intoEngine, dressed, Effect.seen, bare, h]
            cases evaluated with
            | error e => exact (Act.agree_log _ _).bind fun _ => hlookup
            | ok _ => exact hlookup

/-- Systems in which every line finds the same. -/
structure Alike (respond : Responder) (read : Reading) (settings : EngineSettings)
    (τ σ : System World EngineRef) : Prop where
  agrees : respond.Agrees τ.world.scripted.asked σ.world.scripted.asked
  value_eq : ((answering respond read settings).loader.acquire τ).value =
    ((answering respond read settings).loader.acquire σ).value
  world_eq : ((answering respond read settings).loader.acquire τ).world.unmarked bare =
    ((answering respond read settings).loader.acquire σ).world.unmarked bare

/-- No acquisition asks a call. -/
theorem acquire_asked (respond : Responder) (read : Reading) (settings : EngineSettings)
    (σ : System World EngineRef) :
    ((answering respond read settings).loader.acquire σ).world.world.scripted.asked =
        σ.world.scripted.asked ∧
      ((answering respond read settings).loader.acquire σ).world.world.scripted.calls =
        σ.world.scripted.calls := by
  cases hslot : σ.loader.slot with
  | ready handle => simp [Loader.acquire_ready _ hslot]
  | failed reason => simp [Loader.acquire_failed _ hslot]
  | empty =>
      rw [Loader.acquire_empty _ hslot, Loader.attempt_world]
      rcases setUp_world respond read settings σ.world with h | ⟨sources, h⟩
      · rw [h]; exact ⟨rfl, rfl⟩
      · rw [h]; exact ⟨rfl, rfl⟩

theorem Alike.of_bare (hagrees : respond.Agrees τ.world.scripted.asked σ.world.scripted.asked)
    (h : τ.unmarked bare = σ.unmarked bare) : Alike respond read settings τ σ where
  agrees := hagrees
  value_eq := (Loader.agree_acquire (agree_setUp respond read settings)).value_eq h
  world_eq := (Loader.agree_acquire (agree_setUp respond read settings)).world_eq h

theorem Alike.refl (σ : System World EngineRef) : Alike respond read settings σ σ :=
  .of_bare (.refl respond _) rfl

theorem Alike.trans (h : Alike respond read settings τ σ) (h' : Alike respond read settings σ υ) :
    Alike respond read settings τ υ :=
  ⟨h.agrees.trans h'.agrees, h.value_eq.trans h'.value_eq, h.world_eq.trans h'.world_eq⟩

/-- Whether the engine was acquired before makes no difference. -/
theorem Alike.of_acquired {handle : EngineHandle EngineRef}
    (hσ : ((answering respond read settings).loader.acquire σ).value = .ok handle)
    (hagrees : respond.Agrees σ.world.scripted.asked τ.world.scripted.asked)
    (hτ : τ.unmarked bare =
      ((answering respond read settings).loader.acquire σ).world.unmarked bare) :
    Alike respond read settings σ τ := by
  have hslot := Loader.acquire_slot _ hσ
  obtain ⟨hloader, -⟩ := System.unmarked_eq_iff.mp hτ
  rw [← (LoaderState.unmarked_eq_iff.mp hloader).1] at hslot
  refine ⟨hagrees, ?_, ?_⟩
  · rw [hσ, Loader.acquire_ready _ hslot]
  · rw [← hτ, Loader.acquire_ready _ hslot]

/-- A call that panicked and left nothing but a mark and the time makes no difference, unless the
runtime remembers it. -/
theorem Alike.of_panic (hforgets : respond.Forgets) {handle : EngineHandle EngineRef}
    {reason line : String}
    (hσ : ((answering respond read settings).loader.acquire σ).value = .ok handle)
    (hanswer : (respond σ.world.scripted.asked (mode.callOn line)).outcome = .panicked reason)
    (hτ : τ = afterPanic respond (mode.callOn line)
      ((answering respond read settings).loader.acquire σ).world) :
    Alike respond read settings σ τ := by
  subst hτ
  refine .of_acquired hσ ?_ rfl
  have hasked := (acquire_asked respond read settings σ).1
  simp only [afterPanic, withAsked, afterCall, hasked]
  exact hforgets _ _ _ hanswer

/-- A line comes out in the one system as in the other one, and leaves systems that are alike. -/
theorem Alike.run (h : Alike respond read settings τ σ) (mode : Mode) (line : String) :
    ((answering respond read settings).run none mode line τ).value =
        ((answering respond read settings).run none mode line σ).value ∧
      ∀ outcome, ((answering respond read settings).run none mode line σ).value = .done outcome →
        Alike respond read settings ((answering respond read settings).run none mode line τ).world
          ((answering respond read settings).run none mode line σ).world := by
  have hagrees := h.agrees
  rw [← (acquire_asked respond read settings τ).1,
    ← (acquire_asked respond read settings σ).1] at hagrees
  cases hacquire : ((answering respond read settings).loader.acquire σ).value with
  | error e =>
      obtain ⟨hvalue, hworld⟩ := Segments.run_unavailable _ none mode line hacquire
      obtain ⟨hvalue', hworld'⟩ :=
        Segments.run_unavailable _ none mode line (h.value_eq.trans hacquire)
      rw [hvalue, hvalue', hworld, hworld']
      exact ⟨rfl, fun _ _ => .of_bare hagrees h.world_eq⟩
  | ok handle =>
      have hacquire' := h.value_eq.trans hacquire
      have houtcome := hagrees.outcome_eq (mode.callOn line)
      cases hanswer : (respond ((answering respond read settings).loader.acquire
          σ).world.world.scripted.asked (mode.callOn line)).outcome with
      | panicked reason =>
          have hpanic := (run_panicked mode line hacquire rfl hanswer).1
          rw [(run_panicked mode line hacquire' rfl (houtcome.trans hanswer)).1, hpanic]
          exact ⟨rfl, fun _ hdone => by cases hdone⟩
      | returned answer =>
          obtain ⟨hvalue, hworld⟩ := run_returned mode line hacquire rfl hanswer
          obtain ⟨hvalue', hworld'⟩ :=
            run_returned mode line hacquire' rfl (houtcome.trans hanswer)
          rw [hvalue, hvalue', hworld, hworld']
          refine ⟨rfl, fun _ _ => .of_bare (hagrees.snoc _) ?_⟩
          obtain ⟨hloader, hbare⟩ := System.unmarked_eq_iff.mp h.world_eq
          refine System.unmarked_eq_iff.mpr ⟨hloader, ?_⟩
          exact congrArg (fun w => (w.withCall (mode.callOn line)).bare) hbare

/-- Lines that are run in the one system are run in the other one with the same outcomes. -/
theorem Alike.inTurn {lines : List String} {outcomes : List (Except Error EngineResult)}
    {logs : List LogEntry}
    (hturns : (answering respond read settings).InTurn mode σ lines outcomes υ logs)
    (h : Alike respond read settings τ σ) :
    ∃ υ' logs', (answering respond read settings).InTurn mode τ lines outcomes υ' logs' ∧
      Alike respond read settings υ' υ := by
  induction hturns generalizing τ with
  | nil σ => exact ⟨τ, [], .nil τ, h⟩
  | cons hline _ ih =>
      obtain ⟨hvalue, halike⟩ := h.run mode _
      obtain ⟨υ', logs', hrest, hend⟩ := ih (halike _ hline)
      exact ⟨υ', _, .cons (hvalue.trans hline) hrest, hend⟩

end Line

end World

end LineHighlight
