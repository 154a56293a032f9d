import LineHighlight.Engine.Session
import LineHighlight.Proofs.Highlighter.Unmarked

/-! Calls through a library of scripts.
A call runs its method in the state of its context, from the moment at which it was started and
under a handler that looks for the deadline of that call. What the method comes to is decoded. -/

namespace LineHighlight

/-! ## Contexts -/

namespace World

variable {S : Type} [Inhabited S] (w : World S) {m n : Nat} (c : ScriptContext S)

@[simp] theorem length_upTo (n : Nat) (contexts : List (ScriptContext S)) :
    (upTo n contexts).length = max contexts.length (n + 1) := by
  rw [upTo, List.length_append, List.length_replicate]
  omega

theorem getD_upTo (m n : Nat) (contexts : List (ScriptContext S)) :
    ((upTo n contexts)[m]?).getD default = (contexts[m]?).getD default := by
  by_cases hm : m < contexts.length
  · rw [upTo, List.getElem?_append_left hm]
  · rw [upTo, List.getElem?_append_right (by omega), List.getElem?_replicate]
    have hnone : contexts[m]? = none := List.getElem?_eq_none (by omega)
    rw [hnone]
    split <;> rfl

@[simp] theorem context_setContext : (setContext n c w).world.context n = c := by
  have hn : n < (upTo n w.contexts).length := by
    rw [length_upTo]
    omega
  have hset : ((upTo n w.contexts).set n c)[n]? = some c := List.getElem?_set_self hn
  exact congrArg (·.getD default) hset

theorem context_setContext_of_ne (h : m ≠ n) :
    (setContext n c w).world.context m = w.context m := by
  simp [setContext, context, List.getElem?_set_ne h.symm, getD_upTo]

@[simp] theorem setContext_now : (setContext n c w).world.now = w.now := rfl

@[simp] theorem setContext_logs : (setContext n c w).logs = [] := rfl

@[simp] theorem setContext_value : (setContext n c w).value = () := rfl

/-- What is run in a context changes its state and nothing else about it. -/
theorem context_execute {α : Type} (n : Nat) (x : Execution S α) :
    ∃ state, (execute n x w).world.context n = { w.context n with state } := by
  unfold execute
  simp only [Act.bind_apply, Act.get_apply]
  cases x (w.context n).handler w.now (w.context n).state with
  | none => exact ⟨_, rfl⟩
  | some ended => exact ⟨ended.state, w.context_setContext _⟩

/-- What is run in another context leaves a context alone. -/
theorem aside_execute {α : Type} (h : m ≠ n) (x : Execution S α) :
    w.Aside m (execute n x w).world := by
  unfold execute
  simp only [Act.bind_apply, Act.get_apply]
  cases x (w.context n).handler w.now (w.context n).state with
  | none => exact ⟨rfl, Nat.le_refl _⟩
  | some ended => exact ⟨w.context_setContext_of_ne _ h, Nat.le_add_right _ _⟩

end World

/-! ## Calls -/

/-- What the outcome of a method comes to. -/
def EngineCall.answer (call : EngineCall) : Except String (Option String) → Except Error Json
  | .ok json => call.decode json
  | .error message => .error (.engine message)

namespace ScriptLibrary

variable {S V : Type} [Inhabited S] (lib : ScriptLibrary S V) (engine : EngineRef)
  (call : EngineCall) (text : String) (w : World S)

/-- The call in the context that it finds, under the deadline that it sets. -/
def called (c : ScriptContext S) (now : Nat) : Option (Completion S (Option String)) :=
  lib.callMethod engine.entryPoint call text (c.enter now).handler now c.state

theorem running_of_since {since : Nat} (h : (w.context engine.context).since = some since) :
    lib.running engine call text w =
      lib.callMethod engine.entryPoint call text (w.context engine.context).handler since
        (w.context engine.context).state := by
  simp [running, h]

theorem start_eq :
    lib.start engine call text w =
      ⟨(lib.called engine call text (w.context engine.context) w.now).map Completion.took,
        (World.setContext engine.context
          ((w.context engine.context).enter w.now) w).world, []⟩ := by
  obtain ⟨τ, hτ⟩ : ∃ τ, (World.setContext engine.context
    ((w.context engine.context).enter w.now) w).world = τ := ⟨_, rfl⟩
  have hcontext : τ.context engine.context = (w.context engine.context).enter w.now := by
    rw [← hτ, World.context_setContext]
  have hsince : (τ.context engine.context).since = some w.now := by
    rw [hcontext]
    rfl
  simp only [start, Act.bind_apply, Act.get_apply, Act.pure_apply, hτ,
    lib.running_of_since engine call text τ hsince, hcontext]
  rfl

theorem finish_of_running {c : Completion S (Option String)}
    (h : lib.running engine call text w = some c) :
    (lib.finish engine call text w).value = .returned (call.answer c.outcome) ∧
      (lib.finish engine call text w).world =
        (World.setContext engine.context
          ((w.context engine.context).leave c.state) w).world := by
  obtain ⟨outcome, state, took⟩ := c
  cases outcome with
  | ok json => simp [finish, h, EngineCall.answer]
  | error message =>
      cases hexpired : (w.context engine.context).deadline.isExpired w.now <;>
        simp [finish, h, hexpired, EngineCall.answer]

/-- What a call comes to is settled in the context that it finds. -/
theorem invoke_value :
    (lib.invoke engine call text w).value =
      (lib.called engine call text (w.context engine.context) w.now).map fun ended =>
        .returned (call.answer ended.outcome) := by
  simp only [invoke, Act.bind_apply, start_eq]
  cases hcalled : lib.called engine call text (w.context engine.context) w.now with
  | none => rfl
  | some ended =>
      obtain ⟨τ, hτ⟩ : ∃ τ, (World.clock.wait ended.took (World.setContext engine.context
        ((w.context engine.context).enter w.now) w).world).world = τ := ⟨_, rfl⟩
      have hcontext : τ.context engine.context = (w.context engine.context).enter w.now := by
        rw [← hτ]
        exact w.context_setContext _
      have hrunning : lib.running engine call text τ = some ended := by
        rw [lib.running_of_since engine call text τ (by rw [hcontext]; rfl), hcontext]
        exact hcalled
      simp only [Option.map_some, Act.bind_apply, Act.pure_apply, hτ,
        (lib.finish_of_running engine call text τ hrunning).1]

/-- Lines with the runtime that runs scripts with a library. -/
def segments (limits : ScriptLimits) (bundle : Bundle (World S)) (settings : EngineSettings) :
    Segments (World S) Nat EngineRef where
  loader := { runtime := lib.runtime limits, bundle, settings }
  clock := World.clock

variable {limits : ScriptLimits} {bundle : Bundle (World S)} {settings : EngineSettings}
  {mode : Mode}

/-- The call for a line is a call in the context of the line's engine. -/
theorem callLine_eq_invoke (line : String) (handle : EngineHandle EngineRef) :
    (lib.segments limits bundle settings).callLine mode line handle =
      System.inWorld (lib.invoke handle.engine mode.engineCall line) := by
  funext σ
  simp only [Segments.callLine, invoke, Act.bind_apply, System.inWorld, Act.on, segments, runtime]
  cases (lib.start handle.engine mode.engineCall line σ.world).value <;> rfl

theorem run_value {σ τ : System (World S) EngineRef} {handle : EngineHandle EngineRef}
    (hacquire : ((lib.segments limits bundle settings).loader.acquire σ).value = .ok handle)
    (hτ : ((lib.segments limits bundle settings).loader.acquire σ).world = τ) (line : String) :
    ((lib.segments limits bundle settings).run none mode line σ).value =
      match lib.called handle.engine mode.engineCall line
        (τ.world.context handle.engine.context) τ.world.now with
      | none => .waiting handle none
      | some ended =>
        .done ((mode.engineCall.answer ended.outcome).bind EngineResult.ofAnswer) := by
  subst hτ
  rw [Segments.run_value hacquire, callLine_eq_invoke]
  simp only [System.inWorld, Act.on, invoke_value]
  cases lib.called handle.engine mode.engineCall line _ _ <;> rfl

end ScriptLibrary

end LineHighlight
