import LineHighlight.Proofs.Highlighter.Turns

/-! Requests whose lines start in time and whose calls end in time, and lines whose calls panic.
A limit and a deadline that are met make no difference. -/

namespace LineHighlight

/-- Neither late with a line nor waiting for a call. -/
def RequestRun.Punctual {E : Type} : RequestRun E Progress → Prop
  | .finished p => p.skipped = 0
  | .panicked _ => True
  | .waiting .. => False

@[simp] theorem Progress.record_skipped (p : Progress) (line : String)
    (outcome : Except Error EngineResult) : (p.record line outcome).skipped = p.skipped := by
  cases outcome <;> rfl

theorem Progress.skipAll_skipped (p : Progress) (lines : List String) :
    (p.skipAll lines).skipped = p.skipped + lines.length := by
  induction lines generalizing p with
  | nil => rfl
  | cons line lines ih =>
      have hrest := ih (p.skip line)
      simp only [skipAll, List.foldl_cons, List.length_cons] at hrest ⊢
      rw [hrest]
      simp only [skip, keep]
      omega

namespace Segments

/-! ## In time -/

section Punctual

variable {C E : Type} {s : Segments World C E} {limit deadline : Nat} {mode : Mode}
  {σ : System World E}

theorem isLate_now (hclock : s.clock = World.clock) (deadline : Nat) (σ : System World E) :
    s.isLate (some deadline) σ = ⟨decide (deadline ≤ σ.world.now), σ, []⟩ := by
  simp [isLate, hclock, World.clock, System.inWorld, Act.on]

theorem isLate_none (σ : System World E) : s.isLate none σ = ⟨false, σ, []⟩ := rfl

/-- No time passes for lines that are kept, so from the first late line on all are late. -/
theorem runLines_past (hclock : s.clock = World.clock) (hlate : deadline ≤ σ.world.now)
    (limit : Option Nat) (mode : Mode) (lines : List String) (p : Progress) :
    s.runLines limit (some deadline) mode lines p σ = ⟨.finished (p.skipAll lines), σ, []⟩ := by
  induction lines generalizing p with
  | nil => rfl
  | cons line lines ih =>
      simp [Segments.runLines, isLate_now hclock, hlate, ih, Progress.skipAll]

/-- A call that ends before the limit is made as if there were none. -/
theorem call_punctual (hclock : s.clock = World.clock) {line : String} {handle : EngineHandle E}
    (h : ∀ handle' wake,
      (s.call (some limit) mode line handle σ).value ≠ .waiting handle' wake) :
    s.call (some limit) mode line handle σ = s.call none mode line handle σ := by
  cases hstart :
      (System.inWorld (s.loader.runtime.start handle.engine mode.engineCall line) σ).value with
  | none => simp [call, hstart]
  | some duration =>
      simp only [call, Act.bind_apply, hstart] at h ⊢
      split at h
      · rename_i hends
        simp only [hends, if_true]
        simp [hclock, World.clock, System.inWorld, Act.on]
      · exact absurd rfl (h _ _)

theorem run_punctual (hclock : s.clock = World.clock) {line : String}
    (h : ∀ handle wake, (s.run (some limit) mode line σ).value ≠ .waiting handle wake) :
    s.run (some limit) mode line σ = s.run none mode line σ := by
  cases hacquire : (s.loader.acquire σ).value with
  | error e => simp [run, hacquire]
  | ok handle =>
      simp only [run_of_acquire hacquire] at h ⊢
      rw [call_punctual hclock h]

theorem runLines_punctual (hclock : s.clock = World.clock) {lines : List String} {p : Progress}
    (hp : p.skipped = 0)
    (h : (s.runLines (some limit) (some deadline) mode lines p σ).value.Punctual) :
    s.runLines (some limit) (some deadline) mode lines p σ =
      s.runLines none none mode lines p σ := by
  induction lines generalizing p σ with
  | nil => rfl
  | cons line lines ih =>
      by_cases hlate : deadline ≤ σ.world.now
      · rw [runLines_past hclock hlate] at h
        have hskipped := p.skipAll_skipped (line :: lines)
        rw [List.length_cons] at hskipped
        exact absurd (hskipped.symm.trans h) (by omega)
      · simp only [Segments.runLines, Act.bind_apply, isLate_now hclock, hlate, decide_false,
          isLate_none, Bool.false_eq_true, ↓reduceIte] at h ⊢
        have hends : ∀ handle wake,
            (s.run (some limit) mode line σ).value ≠ .waiting handle wake := by
          intro handle wake hwaiting
          rw [hwaiting] at h
          exact h
        rw [run_punctual hclock hends] at h ⊢
        cases hran : (s.run none mode line σ).value with
        | done outcome =>
            simp only [hran] at h ⊢
            rw [ih (by simpa using hp) h]
        | panicked reason => rfl
        | waiting handle wake => rfl

end Punctual

/-! ## Panics -/

section Panics

variable {W C E : Type} {s : Segments W C E} {mode : Mode} {σ υ : System W E}

/-- Lines run in turn up to the first one that has no outcome. -/
theorem inTurn_or_stops (s : Segments W C E) (mode : Mode) (lines : List String)
    (σ : System W E) :
    (∃ outcomes υ logs, s.InTurn mode σ lines outcomes υ logs) ∨
      ∃ first line rest outcomes υ logs, lines = first ++ line :: rest ∧
        s.InTurn mode σ first outcomes υ logs ∧
        ∀ outcome, (s.run none mode line υ).value ≠ .done outcome := by
  induction lines generalizing σ with
  | nil => exact .inl ⟨[], σ, [], .nil σ⟩
  | cons line lines ih =>
      by_cases hline : ∃ outcome, (s.run none mode line σ).value = .done outcome
      · obtain ⟨outcome, hline⟩ := hline
        rcases ih (s.run none mode line σ).world with
          ⟨outcomes, υ, logs, hrest⟩ | ⟨first, stop, rest, outcomes, υ, logs, rfl, hfirst, hstop⟩
        · exact .inl ⟨_, υ, _, .cons hline hrest⟩
        · exact .inr ⟨line :: first, stop, rest, _, υ, _, rfl, .cons hline hfirst, hstop⟩
      · exact .inr ⟨[], line, lines, [], σ, [], rfl, .nil σ, not_exists.mp hline⟩

/-- A panic ends the request where its line stands. -/
theorem InTurn.runLines_panicked {first : List String} {line reason : String}
    {outcomes : List (Except Error EngineResult)} {logs : List LogEntry}
    (h : s.InTurn mode σ first outcomes υ logs)
    (hpanic : (s.run none mode line υ).value = .panicked reason) (rest : List String)
    (p : Progress) :
    (s.runLines none none mode (first ++ line :: rest) p σ).value = .panicked reason ∧
      (s.runLines none none mode (first ++ line :: rest) p σ).world =
        (s.run none mode line υ).world := by
  induction h generalizing p with
  | nil σ => simp [Segments.runLines, isLate, hpanic]
  | cons hline _ ih => simp [Segments.runLines, isLate, hline, ih hpanic]

theorem InTurn.highlight_panicked {text : String} {first rest : List String}
    {line reason : String} {outcomes : List (Except Error EngineResult)} {logs : List LogEntry}
    (h : s.InTurn mode σ first outcomes υ logs)
    (hpanic : (s.run none mode line υ).value = .panicked reason)
    (htext : Text.lines text = first ++ line :: rest) :
    (s.highlight text mode σ).value = .panicked reason ∧
      (s.highlight text mode σ).world = (s.run none mode line υ).world := by
  have hrun := h.runLines_panicked hpanic rest {}
  rw [← htext] at hrun
  simp [highlight, request, Act.write, hrun, conclude]

end Panics

end Segments

end LineHighlight
