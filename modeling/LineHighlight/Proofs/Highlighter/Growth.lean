import LineHighlight.Proofs.Engine.Acquisition
import LineHighlight.Proofs.Highlighter.Recording

/-! What the lines of a request add to a record: the operations of the attempts to make an
engine, and for each line that finds an engine the start of its call. -/

namespace LineHighlight

/-- The call that an operation starts, with its text. -/
def Operation.call? {C E : Type} : Operation C E → Option (EngineCall × String)
  | .call _ kind text => some (kind, text)
  | _ => none

/-- How many engines a loader holds. -/
def LoaderState.engines {E : Type} (s : LoaderState E) : Nat :=
  if s.isLoaded then 1 else 0

/-- Between two systems a block of operations was recorded. It holds some of the calls, in their
order, and its engines went into the loader. -/
structure System.Grew {W C E : Type} (σ τ : System (Recorded W C E) E)
    (calls : List (EngineCall × String)) (block : List (Operation C E)) : Prop where
  operations_eq : τ.world.operations = σ.world.operations ++ block
  calls_sublist : (block.filterMap Operation.call?).Sublist calls
  engines_eq : block.countP Operation.givesEngine + σ.loader.engines = τ.loader.engines

namespace System.Grew

variable {W C E : Type} {σ τ υ : System (Recorded W C E) E}
  {calls calls' : List (EngineCall × String)} {block block' : List (Operation C E)}

theorem refl (σ : System (Recorded W C E) E) : Grew σ σ [] [] where
  operations_eq := (List.append_nil _).symm
  calls_sublist := .refl _
  engines_eq := Nat.zero_add _

theorem trans (h : Grew σ τ calls block) (h' : Grew τ υ calls' block') :
    Grew σ υ (calls ++ calls') (block ++ block') where
  operations_eq := by rw [h'.operations_eq, h.operations_eq, List.append_assoc]
  calls_sublist := by
    rw [List.filterMap_append]
    exact h.calls_sublist.append h'.calls_sublist
  engines_eq := by
    have hfirst := h.engines_eq
    have hsecond := h'.engines_eq
    rw [List.countP_append]
    omega

theorem mono (h : Grew σ τ calls block) (hcalls : calls.Sublist calls') :
    Grew σ τ calls' block :=
  ⟨h.operations_eq, h.calls_sublist.trans hcalls, h.engines_eq⟩

theorem engines_le_one (h : Grew σ τ calls block) :
    block.countP Operation.givesEngine ≤ 1 := by
  have hτ := h.engines_eq
  have hle : τ.loader.engines ≤ 1 := by
    unfold LoaderState.engines
    split <;> omega
  omega

end System.Grew

namespace Loader

variable {W C E : Type}

theorem Attempted.no_calls {settings : EngineSettings} {operations : List (Operation C E)}
    {outcome : Except Error E} (h : Attempted settings operations outcome) :
    operations.filterMap Operation.call? = [] := by
  cases h <;> rfl

theorem Attempted.engines_afterAttempt {settings : EngineSettings}
    {operations : List (Operation C E)} {outcome : Except Error E}
    (h : Attempted settings operations outcome) (s : LoaderState E) (policy : LoadFailure)
    (number : Nat) :
    operations.countP Operation.givesEngine =
      (s.afterAttempt policy number outcome).engines := by
  cases outcome with
  | ok engine => exact h.engines
  | error e =>
      rw [h.no_engines]
      cases policy <;> rfl

theorem acquire_grew (l : Loader W C E) (σ : System (Recorded W C E) E) :
    ∃ block, σ.Grew (l.recorded.acquire σ).world [] block := by
  cases hslot : σ.loader.slot with
  | ready handle => exact ⟨[], by rw [acquire_ready _ hslot]; exact .refl σ⟩
  | failed reason => exact ⟨[], by rw [acquire_failed _ hslot]; exact .refl σ⟩
  | empty =>
      obtain ⟨operations, hattempted, hrecord⟩ := l.setUp_recorded σ.world
      refine ⟨operations, ?_⟩
      rw [acquire_empty _ hslot, attempt_world]
      have hnone : σ.loader.engines = 0 := by
        simp [LoaderState.engines, LoaderState.isLoaded, hslot]
      refine ⟨hrecord, by simp [hattempted.no_calls], ?_⟩
      rw [hnone, Nat.add_zero]
      exact hattempted.engines_afterAttempt _ _ _

end Loader

namespace Segments

variable {W C E : Type}

theorem finish_recorded (s : Segments W C E) (mode : Mode) (line : String)
    (handle : EngineHandle E) (σ : System (Recorded W C E) E) :
    (s.recorded.finish mode line handle σ).world.loader = σ.loader ∧
      (s.recorded.finish mode line handle σ).world.world.operations = σ.world.operations := by
  cases h : (s.loader.runtime.finish handle.engine mode.engineCall line σ.world.world).value with
  | returned answer =>
      simp [finish, recorded, Loader.recorded, Act.unnoted, System.inWorld, Act.on, h]
  | panicked reason =>
      simp [finish, recorded, Loader.recorded, Act.unnoted, System.inWorld, Act.on, h]

/-- A line that finds an engine starts its call, whatever becomes of it. -/
theorem call_recorded (s : Segments W C E) (mode : Mode) (line : String)
    (handle : EngineHandle E) (σ : System (Recorded W C E) E) :
    (s.recorded.call none mode line handle σ).world.loader = σ.loader ∧
      (s.recorded.call none mode line handle σ).world.world.operations =
        σ.world.operations ++ [.call handle.engine mode.engineCall line] := by
  cases hstart : (s.loader.runtime.start handle.engine mode.engineCall line
      σ.world.world).value with
  | none =>
      have hstart : (s.recorded.loader.runtime.start handle.engine mode.engineCall line
          σ.world).value = none := hstart
      simp only [call, Act.bind_apply, System.inWorld, Act.on, hstart]
      exact ⟨rfl, rfl⟩
  | some duration =>
      have hstart : (s.recorded.loader.runtime.start handle.engine mode.engineCall line
          σ.world).value = some duration := hstart
      simp only [call, Act.bind_apply, System.inWorld, Act.on, hstart]
      exact s.finish_recorded mode line handle _

theorem run_recorded (s : Segments W C E) (mode : Mode) (line : String)
    {σ : System (Recorded W C E) E} {handle : EngineHandle E}
    (hacquire : (s.recorded.loader.acquire σ).value = .ok handle) :
    (s.recorded.run none mode line σ).world.loader.engines =
        (s.recorded.loader.acquire σ).world.loader.engines ∧
      (s.recorded.run none mode line σ).world.world.operations =
        (s.recorded.loader.acquire σ).world.world.operations ++
          [.call handle.engine mode.engineCall line] := by
  obtain ⟨hloader, hoperations⟩ :=
    s.call_recorded mode line handle (s.recorded.loader.acquire σ).world
  rw [run_of_acquire hacquire]
  refine ⟨?_, hoperations⟩
  -- To mark the engine's lock makes no engine.
  rw [← hloader]
  rfl

theorem run_grew (s : Segments W C E) (mode : Mode) (line : String)
    (σ : System (Recorded W C E) E) :
    ∃ block, σ.Grew (s.recorded.run none mode line σ).world [(mode.engineCall, line)] block := by
  obtain ⟨block, hacquired⟩ := s.loader.acquire_grew σ
  cases hvalue : (s.recorded.loader.acquire σ).value with
  | error e =>
      refine ⟨block, ?_⟩
      have hworld : (s.recorded.run none mode line σ).world =
          (s.recorded.loader.acquire σ).world := by
        simp [run, hvalue]
      rw [hworld]
      exact hacquired.mono (List.nil_sublist _)
  | ok handle =>
      obtain ⟨hengines, hoperations⟩ := s.run_recorded mode line hvalue
      have hcalled : (s.recorded.loader.acquire σ).world.Grew
          (s.recorded.run none mode line σ).world [(mode.engineCall, line)]
          [.call handle.engine mode.engineCall line] :=
        ⟨hoperations, .refl _, by rw [hengines]; exact Nat.zero_add _⟩
      exact ⟨_, hacquired.trans hcalled⟩

end Segments

end LineHighlight
