import LineHighlight.Engine.Interpreter

/-! Scripts that can be stopped.
Of a library it is asked that a script goes its way until its handler tells it to stop, and then
fails, at once or some time after. What is put together from such scripts can be stopped as well,
and so can a whole call of an engine. That scripts leave the state of their context alone passes
to what is put together in the same way. -/

namespace LineHighlight

namespace InterruptHandler

@[simp] theorem never_stops (moment : Nat) : never.stops moment = false := rfl

end InterruptHandler

namespace Execution

variable {S α β : Type}

/-- An execution does what it does without a handler, or fails when its handler tells it to stop.
It runs forever only if nothing tells it to stop. -/
structure Interruptible (x : Execution S α) : Prop where
  ends : ∀ {handler now s c}, x handler now s = some c →
    x .never now s = some c ∨
      (∃ message, c.outcome = .error message) ∧ handler.stops (now + c.took) = true
  endless : ∀ {handler now s}, x handler now s = none →
    x .never now s = none ∧ ∀ moment, handler.stops moment = false

theorem interruptible_ofExcept (outcome : Except String α) :
    (ofExcept outcome : Execution S α).Interruptible where
  ends h := .inl h
  endless h := by cases h

theorem interruptible_pure (a : α) : (pure a : Execution S α).Interruptible :=
  interruptible_ofExcept (.ok a)

section Bind

variable {x : Execution S α} {f : α → Execution S β} {handler : InterruptHandler} {now : Nat}
  {s t : S} {took : Nat}

theorem bind_of_none (h : x handler now s = none) : (x >>= f) handler now s = none := by
  simp only [Bind.bind, bind, h]

theorem bind_of_error {message : String} (h : x handler now s = some ⟨.error message, t, took⟩) :
    (x >>= f) handler now s = some ⟨.error message, t, took⟩ := by
  simp only [Bind.bind, bind, h]

theorem bind_of_ok {a : α} (h : x handler now s = some ⟨.ok a, t, took⟩) :
    (x >>= f) handler now s =
      (f a handler (now + took) t).map fun c => { c with took := took + c.took } := by
  simp only [Bind.bind, bind, h]

/-- How one execution after another comes to an end. -/
theorem bind_eq_some {c : Completion S β} (h : (x >>= f) handler now s = some c) :
    (∃ message t took, x handler now s = some ⟨.error message, t, took⟩ ∧
      c = ⟨.error message, t, took⟩) ∨
    ∃ a t took rest, x handler now s = some ⟨.ok a, t, took⟩ ∧
      f a handler (now + took) t = some rest ∧ c = { rest with took := took + rest.took } := by
  cases hfirst : x handler now s with
  | none => cases (bind_of_none hfirst).symm.trans h
  | some first =>
      obtain ⟨outcome, t, took⟩ := first
      cases outcome with
      | error message =>
          have herror := Option.some.inj ((bind_of_error hfirst).symm.trans h)
          exact .inl ⟨message, t, took, rfl, herror.symm⟩
      | ok a =>
          rw [bind_of_ok hfirst] at h
          obtain ⟨rest, hrest, hc⟩ := Option.map_eq_some_iff.mp h
          exact .inr ⟨a, t, took, rest, rfl, hrest, hc.symm⟩

/-- The rest of an execution whose beginning is known. -/
theorem exists_rest_of_ok {a : α} {c : Completion S β}
    (hfirst : x handler now s = some ⟨.ok a, t, took⟩) (h : (x >>= f) handler now s = some c) :
    ∃ rest, f a handler (now + took) t = some rest ∧ c.state = rest.state := by
  rw [bind_of_ok hfirst] at h
  obtain ⟨rest, hrest, rfl⟩ := Option.map_eq_some_iff.mp h
  exact ⟨rest, hrest, rfl⟩

/-- How one execution after another comes to no end. -/
theorem bind_eq_none (h : (x >>= f) handler now s = none) :
    x handler now s = none ∨
    ∃ a t took, x handler now s = some ⟨.ok a, t, took⟩ ∧ f a handler (now + took) t = none := by
  cases hfirst : x handler now s with
  | none => exact .inl rfl
  | some first =>
      obtain ⟨outcome, t, took⟩ := first
      cases outcome with
      | error message => cases (bind_of_error hfirst).symm.trans h
      | ok a =>
          rw [bind_of_ok hfirst] at h
          exact .inr ⟨a, t, took, rfl, Option.map_eq_none_iff.mp h⟩

end Bind

/-- What has given a value was not stopped. -/
theorem Interruptible.never_of_ok {x : Execution S α} (hx : x.Interruptible)
    {handler : InterruptHandler} {now : Nat} {s t : S} {a : α} {took : Nat}
    (h : x handler now s = some ⟨.ok a, t, took⟩) :
    x .never now s = some ⟨.ok a, t, took⟩ := by
  rcases hx.ends h with hsame | ⟨⟨message, herror⟩, -⟩
  · exact hsame
  · cases herror

theorem Interruptible.bind {x : Execution S α} {f : α → Execution S β} (hx : x.Interruptible)
    (hf : ∀ a, (f a).Interruptible) : (x >>= f).Interruptible where
  ends := by
    intro handler now s c h
    rcases bind_eq_some h with
      ⟨message, t, took, hfirst, rfl⟩ | ⟨a, t, took, rest, hfirst, hrest, rfl⟩
    · rcases hx.ends hfirst with hsame | ⟨-, hstops⟩
      · exact .inl (bind_of_error hsame)
      · exact .inr ⟨⟨message, rfl⟩, hstops⟩
    · rcases (hf a).ends hrest with hsame | ⟨herror, hstops⟩
      · refine .inl ?_
        rw [bind_of_ok (hx.never_of_ok hfirst), hsame]
        rfl
      · refine .inr ⟨herror, ?_⟩
        rw [← Nat.add_assoc]
        exact hstops
  endless := by
    intro handler now s h
    rcases bind_eq_none h with hnone | ⟨a, t, took, hfirst, hnone⟩
    · obtain ⟨hsame, hstops⟩ := hx.endless hnone
      exact ⟨bind_of_none hsame, hstops⟩
    · obtain ⟨hsame, hstops⟩ := (hf a).endless hnone
      refine ⟨?_, hstops⟩
      rw [bind_of_ok (hx.never_of_ok hfirst), hsame]
      rfl

/-- An execution that leaves the state of its context as it finds it. -/
structure KeepsState (x : Execution S α) : Prop where
  state_eq : ∀ {handler now s c}, x handler now s = some c → c.state = s

theorem keepsState_ofExcept (outcome : Except String α) :
    (ofExcept outcome : Execution S α).KeepsState := by
  refine ⟨fun h => ?_⟩
  obtain rfl := Option.some.inj h
  rfl

theorem KeepsState.bind {x : Execution S α} {f : α → Execution S β} (hx : x.KeepsState)
    (hf : ∀ a, (f a).KeepsState) : (x >>= f).KeepsState := by
  refine ⟨fun {handler now s c} h => ?_⟩
  rcases bind_eq_some h with
    ⟨message, t, took, hfirst, rfl⟩ | ⟨a, t, took, rest, hfirst, hrest, rfl⟩
  · exact hx.state_eq hfirst
  · have hstate : rest.state = t := (hf a).state_eq hrest
    exact hstate.trans (hx.state_eq hfirst)

/-- A judgment of executions that holds of what is put together if it holds of the parts. -/
structure Compositional (J : ∀ α : Type, Execution S α → Prop) : Prop where
  ofExcept : ∀ {α : Type} (outcome : Except String α), J α (ofExcept outcome)
  bind : ∀ {α β : Type} {x : Execution S α} {f : α → Execution S β},
    J α x → (∀ a, J β (f a)) → J β (x >>= f)

theorem compositional_interruptible :
    Compositional fun α (x : Execution S α) => x.Interruptible where
  ofExcept := interruptible_ofExcept
  bind := .bind

theorem compositional_keepsState : Compositional fun α (x : Execution S α) => x.KeepsState where
  ofExcept := keepsState_ofExcept
  bind := .bind

end Execution

namespace ScriptLibrary

open Execution

variable {S V : Type}

/-- A judgment of everything that is done with a result. -/
structure OnResults (lib : ScriptLibrary S V) (J : ∀ α : Type, Execution S α → Prop) : Prop where
  field : ∀ object name, J V (lib.field object name)
  newObject : J V lib.newObject
  setField : ∀ object name v, J V (lib.setField object name v)
  toInt32 : ∀ v, J Int32 (lib.toInt32 v)
  stringify : ∀ v, J (Option V) (lib.stringify v)
  text : ∀ v, J String (lib.text v)

/-- A library whose scripts can be stopped, wherever they are run. -/
structure Interruptible (lib : ScriptLibrary S V) : Prop where
  eval : ∀ source, (lib.eval source).Interruptible
  call : ∀ function this text options, (lib.call function this text options).Interruptible
  parse : ∀ text, (lib.parse text).Interruptible
  results : lib.OnResults fun α (x : Execution S α) => x.Interruptible

variable {lib : ScriptLibrary S V} {J : ∀ α : Type, Execution S α → Prop}

theorem OnResults.contractFields (hJ : Compositional J) (h : lib.OnResults J) (result : V) :
    J V (lib.contractFields result) :=
  hJ.bind h.newObject fun _ => hJ.bind (h.field _ _) fun _ => hJ.bind (h.setField _ _ _) fun _ =>
    hJ.bind (h.field _ _) fun _ => hJ.bind (h.setField _ _ _) fun _ =>
      hJ.bind (h.field _ _) fun _ => hJ.bind (h.field _ _) fun _ => hJ.bind (h.toInt32 _) fun _ =>
        hJ.bind (h.setField _ _ _) fun _ => h.setField _ _ _

theorem OnResults.jsonText (hJ : Compositional J) (h : lib.OnResults J) (shown : V) :
    J (Option String) (lib.jsonText shown) := by
  refine hJ.bind (h.stringify shown) fun json => ?_
  cases json with
  | none => exact hJ.ofExcept (.ok none)
  | some json => exact hJ.bind (h.text json) fun _ => hJ.ofExcept (.ok _)

theorem OnResults.resultText (hJ : Compositional J) (h : lib.OnResults J) (result : V) :
    J (Option String) (lib.resultText result) := by
  unfold ScriptLibrary.resultText
  cases lib.object result with
  | ok object => exact hJ.bind (h.contractFields hJ object) (h.jsonText hJ)
  | error _ => exact hJ.bind (hJ.ofExcept (.ok result)) (h.jsonText hJ)

namespace Interruptible

theorem target (h : lib.Interruptible) (entryPoint : String) :
    (lib.target entryPoint).Interruptible :=
  (h.results.field _ _).bind fun _ => interruptible_ofExcept _

theorem callFunction (h : lib.Interruptible) (entryPoint : String) (call : EngineCall)
    (text : String) : (lib.callFunction entryPoint call text).Interruptible := by
  refine (h.target entryPoint).bind fun target => Interruptible.bind (h.results.field _ _)
    fun method => (interruptible_ofExcept _).bind fun function => ?_
  cases call.optionsText with
  | none => exact h.call _ _ _ _
  | some options => exact (h.parse options).bind fun _ => h.call _ _ _ _

theorem callMethod (h : lib.Interruptible) (entryPoint : String) (call : EngineCall)
    (text : String) : (lib.callMethod entryPoint call text).Interruptible :=
  (h.callFunction entryPoint call text).bind fun _ =>
    h.results.resultText compositional_interruptible _

end Interruptible

end ScriptLibrary

end LineHighlight
