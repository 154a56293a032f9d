import LineHighlight.Proofs.Engine.Scripted
import LineHighlight.Proofs.Highlighter.Punctual
import LineHighlight.Proofs.Highlighter.Unmarked
import LineHighlight.Service.Budget

/-! Requests whose callers get their text back.
A request to the service that panics, or whose time is over before it is finished, comes to the
same result as one none of whose lines is marked up. -/

namespace LineHighlight

open HighlightResult

namespace Service

variable {W C E : Type} {s : Service W C E} {text : String} {mode : Mode}
  {σ τ : ServiceState W E} {deadline : Nat}

/-- The turn of a request comes, with the state then and the end of its time. -/
inductive Turn (s : Service W C E) (σ : ServiceState W E) : ServiceState W E → Nat → Prop
  | free (hfree : (s.now σ).world.straggler = none) (hbudget : s.budget ≠ 0) :
      Turn s σ (s.now σ).world ((s.now σ).value + s.budget)
  | behind {st : Straggler E} (hst : (s.now σ).world.straggler = some st)
      (hends : st.wake.any (· < (s.now σ).value + s.budget) = true) :
      Turn s σ (s.settle (s.now σ).world).world ((s.now σ).value + s.budget)

/-- The request whose turn has come. -/
def run (s : Service W C E) (text : String) (mode : Mode) (deadline : Nat)
    (τ : ServiceState W E) : RequestRun E HighlightResult :=
  (s.segments.request (some deadline) (some deadline) text mode τ.system).value

theorem takeTurn_value (s : Service W C E) (text : String) (mode : Mode) (deadline : Nat)
    (τ : ServiceState W E) :
    (s.takeTurn text mode deadline τ).value =
      match s.run text mode deadline τ with
      | .finished result => result
      | _ => unhighlighted text := by
  rw [run]
  cases hrun : (s.segments.request (some deadline) (some deadline) text mode τ.system).value with
  | finished result => simp [takeTurn, hrun]
  | panicked reason => simp [takeTurn, hrun]
  | waiting before line rest handle wake =>
      simp [takeTurn, hrun, giveUp]

theorem Turn.highlightText_value (h : s.Turn σ τ deadline) :
    (s.highlightText text mode σ).value = (s.takeTurn text mode deadline τ).value := by
  cases h with
  | free hfree hbudget => simp [highlightText, hfree, hbudget]
  | behind hst hends => simp [highlightText, hst, hends]

/-- The task of a request panics, or the time of its caller is over. -/
inductive Lost (s : Service W C E) (text : String) (mode : Mode) (σ : ServiceState W E) : Prop
  | panicked (τ : ServiceState W E) (deadline : Nat) (reason : String)
      (hturn : s.Turn σ τ deadline) (h : s.run text mode deadline τ = .panicked reason)
  | inCall (τ : ServiceState W E) (deadline : Nat) (before : Progress) (line : String)
      (rest : List String) (handle : EngineHandle E) (wake : Option Nat)
      (hturn : s.Turn σ τ deadline)
      (h : s.run text mode deadline τ = .waiting before line rest handle wake)
  | inQueue (st : Straggler E) (hst : (s.now σ).world.straggler = some st)
      (h : st.wake.any (· < (s.now σ).value + s.budget) = false)
  | noTime (hfree : (s.now σ).world.straggler = none) (hbudget : s.budget = 0)

theorem Lost.highlightText_value (h : s.Lost text mode σ) :
    (s.highlightText text mode σ).value = unhighlighted text := by
  cases h with
  | panicked τ deadline reason hturn h => rw [hturn.highlightText_value, takeTurn_value, h]
  | inCall τ deadline before line rest handle wake hturn h =>
      rw [hturn.highlightText_value, takeTurn_value, h]
  | inQueue st hst h => simp [highlightText, hst, h, giveUp]
  | noTime hfree hbudget => simp [highlightText, hfree, hbudget, giveUp]

/-- There is no third way. -/
theorem lost_or_finished (s : Service W C E) (text : String) (mode : Mode)
    (σ : ServiceState W E) :
    s.Lost text mode σ ∨ ∃ τ deadline result, s.Turn σ τ deadline ∧
      s.run text mode deadline τ = .finished result ∧
      (s.highlightText text mode σ).value = result := by
  have hturn : ∀ {τ deadline}, s.Turn σ τ deadline → s.Lost text mode σ ∨
      ∃ τ deadline result, s.Turn σ τ deadline ∧ s.run text mode deadline τ = .finished result ∧
        (s.highlightText text mode σ).value = result := by
    intro τ deadline hturn
    cases hrun : s.run text mode deadline τ with
    | finished result =>
        refine .inr ⟨τ, deadline, result, hturn, hrun, ?_⟩
        rw [hturn.highlightText_value, takeTurn_value, hrun]
    | panicked reason => exact .inl (.panicked τ deadline reason hturn hrun)
    | waiting before line rest handle wake =>
        exact .inl (.inCall τ deadline before line rest handle wake hturn hrun)
  cases hst : (s.now σ).world.straggler with
  | none =>
      by_cases hbudget : s.budget = 0
      · exact .inl (.noTime hst hbudget)
      · exact hturn (.free hst hbudget)
  | some st =>
      cases hends : st.wake.any (· < (s.now σ).value + s.budget) with
      | false => exact .inl (.inQueue st hst hends)
      | true => exact hturn (.behind hst hends)

end Service

/-! ## A limit on the calls -/

namespace Segments

variable {C E : Type} {s : Segments World C E} {limit : Nat} {deadline : Option Nat} {mode : Mode}
  {σ : System World E}

/-- What is finished within a limit is finished in the same way without one. -/
theorem runLines_unlimited (hclock : s.clock = World.clock) {lines : List String}
    {p q : Progress} (h : (s.runLines (some limit) deadline mode lines p σ).value = .finished q) :
    (s.runLines none deadline mode lines p σ).value = .finished q := by
  induction lines generalizing p σ with
  | nil => exact h
  | cons line lines ih =>
      rcases runLines_cons_finished h with ⟨hlate, hrest⟩ | ⟨outcome, hearly, hrun, hrest⟩
      · simp only [Segments.runLines, Act.bind_apply, hlate, if_true]
        exact ih hrest
      · have hends : ∀ handle wake,
            (s.run (some limit) mode line (s.isLate deadline σ).world).value ≠
              .waiting handle wake := by
          intro handle wake hwaiting
          cases hrun.symm.trans hwaiting
        rw [run_punctual hclock hends] at hrun hrest
        simp only [Segments.runLines, Act.bind_apply, hearly, Bool.false_eq_true, if_false, hrun]
        exact ih hrest

theorem request_unlimited (hclock : s.clock = World.clock) {text : String}
    {result : HighlightResult}
    (h : (s.request (some limit) deadline text mode σ).value = .finished result) :
    (s.request none deadline text mode σ).value = .finished result := by
  simp only [request, Act.bind_apply, Act.write] at h ⊢
  cases hrun : (s.runLines (some limit) deadline mode (Text.lines text) {} σ).value with
  | finished q =>
      rw [runLines_unlimited hclock hrun, ← h, hrun]
      exact conclude_value _ _ _
  | panicked reason =>
      rw [hrun] at h
      cases h
  | waiting before line rest handle wake =>
      rw [hrun] at h
      cases h

end Segments

/-- A request to the service none of whose lines would be marked up, however it ends. -/
theorem Service.highlightText_unmarked {C E : Type} {s : Service World C E}
    (hclock : s.segments.clock = World.clock) {text : String} {mode : Mode}
    {σ : ServiceState World E}
    (h : ∀ τ deadline, s.Turn σ τ deadline →
      s.segments.Unmarked (some deadline) mode τ.system (Text.lines text)) :
    (s.highlightText text mode σ).value = unhighlighted text := by
  rcases s.lost_or_finished text mode σ with hlost | ⟨τ, deadline, result, hturn, hrun, hresult⟩
  · exact hlost.highlightText_value
  · have hunlimited := Segments.request_unlimited hclock hrun
    have hunmarked := (h τ deadline hturn).request
    rw [hresult]
    exact RequestRun.finished.inj (hunlimited.symm.trans hunmarked)

/-! ## All ways -/

/-- The ways of highlighting a text that give it back. -/
structure UnmarkedSpec {W C E : Type} (s : Segments W C E) (text : String) (mode : Mode) :
    Prop where
  unhighlighted_eq : unhighlighted text = ⟨text ++ "\n", false, "mixed", 0⟩
  fails_iff : ∀ line σ,
    s.Fails mode line σ ↔ ∃ e, (s.run none mode line σ).value = .done (.error e)
  /-- All lines are kept iff each of them is late or fails. -/
  unmarked_iff : ∀ deadline σ, s.Unmarked deadline mode σ (Text.lines text) ↔
    ∃ q, (s.runLines none deadline mode (Text.lines text) {} σ).value = .finished q ∧
      q.failures = q.segments
  highlight : ∀ σ, s.Unmarked none mode σ (Text.lines text) →
    (s.highlight text mode σ).value = .finished (unhighlighted text)
  highlightUntil : ∀ deadline σ, s.Unmarked (some deadline) mode σ (Text.lines text) →
    (s.highlightUntil text mode deadline σ).value = .finished (unhighlighted text)
  service : ∀ budget σ, Service.Lost ⟨s, budget⟩ text mode σ →
    (Service.highlightText ⟨s, budget⟩ text mode σ).value = unhighlighted text
  service_else : ∀ budget σ, Service.Lost ⟨s, budget⟩ text mode σ ∨
    ∃ τ deadline result, Service.Turn ⟨s, budget⟩ σ τ deadline ∧
      Service.run ⟨s, budget⟩ text mode deadline τ = .finished result ∧
      (Service.highlightText ⟨s, budget⟩ text mode σ).value = result

theorem unmarked_spec {W C E : Type} (s : Segments W C E) (text : String) (mode : Mode) :
    UnmarkedSpec s text mode where
  unhighlighted_eq := unhighlighted_eq text
  fails_iff _ _ := Segments.fails_iff
  unmarked_iff _ _ := Segments.unmarked_iff
  highlight _ h := h.request
  highlightUntil _ _ h := h.request
  service _ _ h := h.highlightText_value
  service_else budget σ := Service.lost_or_finished ⟨s, budget⟩ text mode σ

/-- The first line finds no engine, the call for the second one fails, the answer for the third
one is no object, and the fourth one is late. -/
theorem unmarked_spec_mixture :
    let respond : Responder := fun _ call =>
      { delay := 5
        outcome := .returned (if call.text = "b" then .error (.engine "no") else .ok .null) }
    let s := World.answering respond World.inMemory {}
    s.Unmarked (some 10) .automatic (World.unloaded 1) (Text.lines "a\nb\nc\r\nd") ∧
      (s.highlightUntil "a\nb\nc\r\nd" .automatic 10 (World.unloaded 1)).value =
        .finished ⟨"a\nb\nc\r\nd\n", false, "mixed", 0⟩ :=
  have hunmarked := Segments.unmarked_iff.mpr
    ⟨⟨"a\nb\nc\r\nd\n", 0, false, 4, 4, 1⟩, rfl, rfl⟩
  ⟨hunmarked, (unmarked_spec _ _ _).highlightUntil 10 _ hunmarked⟩

end LineHighlight
