import LineHighlight.Proofs.Engine.Marks
import LineHighlight.Proofs.Highlighter.Locks
import LineHighlight.Service.Budget

/-! Requests to a service whose locks are marked.
Marks on the gate, on the loader's lock and on the engine's lock make no difference to any request,
whether it is in time or not. -/

namespace LineHighlight

/-! ## Requests at the engine -/

namespace System

variable {W E α : Type}

/-- In systems that differ in marks alone, the actions do the same. -/
def Agree (x y : Act (System W E) α) : Prop :=
  Act.Agree (unmarked id) x y

theorem IsOuter.agree {x : Act (System W E) α} (h : IsOuter x) : Agree x x := by
  obtain ⟨y, rfl⟩ := h
  exact agree_inWorld (Act.agree_id y)

end System

namespace Segments

variable {W C E : Type} (s : Segments W C E) (limit deadline : Option Nat) (mode : Mode)

theorem agree_run (line : String) :
    System.Agree (s.run limit mode line) (s.run limit mode line) := by
  refine (Loader.agree_acquire (Act.agree_id _)).bind fun acquired => ?_
  cases acquired with
  | error e => exact (isOuter_settle mode _).agree
  | ok handle => exact System.agree_withEngine _ (s.isOuter_call limit mode line handle).agree

theorem agree_isLate : System.Agree (s.isLate deadline) (s.isLate deadline) := by
  cases deadline with
  | none => exact Act.agree_pure false
  | some deadline =>
      exact (System.agree_inWorld (Act.agree_id _)).bind fun _ => Act.agree_pure _

theorem agree_runLines (lines : List String) (p : Progress) :
    System.Agree (s.runLines limit deadline mode lines p)
      (s.runLines limit deadline mode lines p) := by
  induction lines generalizing p with
  | nil => exact Act.agree_pure _
  | cons line lines ih =>
      refine (s.agree_isLate deadline).bind fun late => ?_
      cases late with
      | true => exact ih _
      | false =>
          refine (s.agree_run limit mode line).bind fun ran => ?_
          cases ran with
          | done outcome => exact ih _
          | panicked reason => exact Act.agree_pure _
          | waiting handle wake => exact Act.agree_pure _

theorem agree_conclude (r : RequestRun E Progress) :
    System.Agree (W := W) (conclude r) (conclude r) := by
  cases r with
  | finished p =>
      refine Act.Agree.bind ?_ fun _ => Act.agree_pure _
      simp only [logSummary]
      split
      · exact (Act.agree_log _ _).bind fun _ => Act.agree_log _ _
      · exact Act.agree_log _ _
  | panicked reason => exact Act.agree_pure _
  | waiting before line rest handle wake => exact Act.agree_pure _

theorem agree_request (text : String) :
    System.Agree (s.request limit deadline text mode) (s.request limit deadline text mode) :=
  (Act.agree_write _).bind fun _ =>
    (s.agree_runLines limit deadline mode _ _).bind fun r => agree_conclude r

theorem agree_resume (before : Progress) (line : String) (rest : List String)
    (handle : EngineHandle E) :
    System.Agree (s.resume deadline mode before line rest handle)
      (s.resume deadline mode before line rest handle) := by
  refine (System.agree_modifyLoader fun l m hlm => ?_).bind fun _ =>
    (System.agree_withEngine _ (s.isOuter_finish mode line handle).agree).bind fun ran => ?_
  · obtain ⟨hslot, hattempts, hlock, hengine⟩ := LoaderState.unmarked_eq_iff.mp hlm
    exact LoaderState.unmarked_eq_iff.mpr ⟨hslot, hattempts, hlock, Lock.unmarked_release⟩
  · cases ran with
    | done outcome => exact (s.agree_runLines none deadline mode _ _).bind fun r => agree_conclude r
    | panicked reason => exact Act.agree_pure _
    | waiting handle wake => exact Act.agree_pure _

end Segments

/-! ## Requests at the gate -/

namespace ServiceState

variable {W E α : Type}

/-- A service without marks on its locks. -/
def unmarked (σ : ServiceState W E) : ServiceState W E :=
  { σ with system := σ.system.unmarked id, gate := σ.gate.unmarked }

theorem unmarked_eq_iff {σ τ : ServiceState W E} :
    σ.unmarked = τ.unmarked ↔ σ.system.unmarked id = τ.system.unmarked id ∧
      σ.straggler = τ.straggler ∧ σ.queue = τ.queue ∧ σ.gate.unmarked = τ.gate.unmarked := by
  simp [unmarked]

/-- In services that differ in marks alone, the actions do the same. -/
def Agree (x y : Act (ServiceState W E) α) : Prop :=
  Act.Agree unmarked x y

theorem agree_inSystem {x : Act (System W E) α} (h : System.Agree x x) :
    Agree (inSystem x) (inSystem x) := by
  intro σ τ hστ
  obtain ⟨hsystem, hstraggler, hqueue, hgate⟩ := unmarked_eq_iff.mp hστ
  have hsame := h σ.system τ.system hsystem
  simp only [Effect.seen, Effect.mk.injEq] at hsame
  simp only [inSystem, Act.on, Effect.seen, unmarked, hsame, hstraggler, hqueue, hgate]

theorem agree_inWorld (x : Act W α) : Agree (E := E) (inWorld x) (inWorld x) :=
  agree_inSystem (System.agree_inWorld (Act.agree_id x))

theorem agree_modifyGate {f g : Lock → Lock}
    (h : ∀ l m : Lock, l.unmarked = m.unmarked → (f l).unmarked = (g m).unmarked) :
    Agree (W := W) (E := E) (modifyGate f) (modifyGate g) :=
  Act.agree_modify fun σ τ hστ => by
    obtain ⟨hsystem, hstraggler, hqueue, hgate⟩ := unmarked_eq_iff.mp hστ
    exact unmarked_eq_iff.mpr ⟨hsystem, hstraggler, hqueue, h _ _ hgate⟩

theorem agree_atGate {x : Act (System W E) (RequestRun E α)} (h : System.Agree x x) :
    Agree (atGate x) (atGate x) := by
  refine Act.agree_get fun σ τ hστ => ?_
  obtain ⟨-, -, -, hgate⟩ := unmarked_eq_iff.mp hστ
  exact (agree_modifyGate fun _ _ => Lock.unmarked_taken).bind fun _ =>
    (agree_inSystem h).bind fun r =>
      (agree_modifyGate fun _ _ _ => Lock.unmarked_after hgate r.hold).bind fun _ =>
        Act.agree_pure r

end ServiceState

namespace Service

variable {W C E : Type} (s : Service W C E)

theorem agree_waitUntil (moment : Nat) :
    ServiceState.Agree (s.waitUntil moment) (s.waitUntil moment) :=
  (ServiceState.agree_inWorld _).bind fun _ => ServiceState.agree_inWorld _

theorem agree_runAbandoned (queue : List Abandoned) :
    ServiceState.Agree (s.runAbandoned queue) (s.runAbandoned queue) := by
  induction queue with
  | nil => exact Act.agree_pure ()
  | cons a queue ih =>
      exact (ServiceState.agree_atGate (s.segments.agree_request none _ _ _)).bind fun _ => ih

theorem agree_endStraggler (st : Straggler E) :
    ServiceState.Agree (s.endStraggler st) (s.endStraggler st) := by
  refine Act.agree_get fun σ τ hστ => ?_
  obtain ⟨-, -, hqueue, -⟩ := ServiceState.unmarked_eq_iff.mp hστ
  rw [hqueue]
  refine (Act.agree_modify fun _ _ hst => ?_).bind fun _ =>
    (ServiceState.agree_modifyGate fun _ _ _ => Lock.unmarked_release).bind fun _ =>
      (ServiceState.agree_atGate (s.segments.agree_resume _ _ _ _ _ _)).bind fun _ =>
        s.agree_runAbandoned _
  obtain ⟨hsystem, -, -, hgate⟩ := ServiceState.unmarked_eq_iff.mp hst
  exact ServiceState.unmarked_eq_iff.mpr ⟨hsystem, rfl, rfl, hgate⟩

theorem agree_passUntil (moment : Nat) :
    ServiceState.Agree (s.passUntil moment) (s.passUntil moment) := by
  refine Act.agree_get fun σ τ hστ => ?_
  obtain ⟨-, hstraggler, -, -⟩ := ServiceState.unmarked_eq_iff.mp hστ
  rw [hstraggler]
  cases τ.straggler with
  | none => exact s.agree_waitUntil moment
  | some st =>
      simp only
      cases st.wake with
      | none => exact s.agree_waitUntil moment
      | some wake =>
          simp only
          split
          · exact (s.agree_waitUntil wake).bind fun _ =>
              (s.agree_endStraggler st).bind fun _ => s.agree_waitUntil moment
          · exact s.agree_waitUntil moment

theorem agree_settle : ServiceState.Agree s.settle s.settle := by
  refine Act.agree_get fun σ τ hστ => ?_
  obtain ⟨-, hstraggler, -, -⟩ := ServiceState.unmarked_eq_iff.mp hστ
  rw [hstraggler]
  cases τ.straggler.bind Straggler.wake with
  | none => exact Act.agree_pure ()
  | some wake => exact s.agree_passUntil wake

theorem agree_giveUp (text : String) : ServiceState.Agree (s.giveUp text) (s.giveUp text) :=
  (Act.agree_log _ _).bind fun _ => Act.agree_pure _

theorem agree_takeTurn (text : String) (mode : Mode) (deadline : Nat) :
    ServiceState.Agree (s.takeTurn text mode deadline) (s.takeTurn text mode deadline) := by
  refine (ServiceState.agree_atGate (s.segments.agree_request _ _ _ _)).bind fun ran => ?_
  cases ran with
  | finished result => exact Act.agree_pure _
  | panicked reason => exact (Act.agree_log _ _).bind fun _ => Act.agree_pure _
  | waiting before line rest handle wake =>
      refine (Act.agree_modify fun _ _ hst => ?_).bind fun _ =>
        (s.agree_waitUntil deadline).bind fun _ => s.agree_giveUp text
      obtain ⟨hsystem, -, hqueue, hgate⟩ := ServiceState.unmarked_eq_iff.mp hst
      exact ServiceState.unmarked_eq_iff.mpr ⟨hsystem, rfl, hqueue, hgate⟩

/-- Marks on locks make no difference to a request. -/
theorem agree_highlightText (text : String) (mode : Mode) :
    ServiceState.Agree (s.highlightText text mode) (s.highlightText text mode) := by
  refine (ServiceState.agree_inWorld _).bind fun start => Act.agree_get fun σ τ hστ => ?_
  obtain ⟨-, hstraggler, -, -⟩ := ServiceState.unmarked_eq_iff.mp hστ
  rw [hstraggler]
  cases τ.straggler with
  | none =>
      simp only
      split
      · exact (s.agree_giveUp text).bind fun _ =>
          (s.agree_runAbandoned _).bind fun _ => Act.agree_pure _
      · exact s.agree_takeTurn text mode _
  | some st =>
      simp only
      split
      · exact s.agree_settle.bind fun _ => s.agree_takeTurn text mode _
      · refine (Act.agree_modify fun _ _ hst => ?_).bind fun _ =>
          (s.agree_waitUntil _).bind fun _ => s.agree_giveUp text
        obtain ⟨hsystem, hstraggler, hqueue, hgate⟩ := ServiceState.unmarked_eq_iff.mp hst
        exact ServiceState.unmarked_eq_iff.mpr ⟨hsystem, hstraggler, by rw [hqueue], hgate⟩

end Service

end LineHighlight
