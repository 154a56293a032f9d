import LineHighlight.Engine.Bundle
import LineHighlight.Engine.Scripted
import LineHighlight.Proofs.Engine.History

/-! Attempts under a policy that tries again.
The runtime runs no scripts and is one part of a world in which everything may change between two
attempts. What an attempt comes to is settled by what it finds, not by the attempts before it. -/

namespace LineHighlight

theorem Text.contains_iff (whole part : String) :
    contains whole part = true ↔ part.toList <:+: whole.toList := by
  rw [contains]
  induction whole.toList with
  | nil => simp [occursIn]
  | cons c rest ih => simp [occursIn, ih, List.infix_cons_iff]

/-! ### Evaluation -/

namespace Loader

variable {W C E : Type}

/-- The loader with a runtime that evaluates as before and calls every evaluation a success. -/
def lenient (l : Loader W C E) : Loader W C E where
  runtime :=
    { l.runtime with
      evaluate := fun context source => do
        let _ ← l.runtime.evaluate context source
        return .ok () }
  bundle := l.bundle
  settings := l.settings

theorem setUp_lenient (l : Loader W C E) (w : W) :
    (l.lenient.setUp w).value = (l.setUp w).value ∧
      (l.lenient.setUp w).world = (l.setUp w).world := by
  simp only [setUp, lenient, Act.bind_apply]
  cases (l.runtime.createContext w).value with
  | error e => exact ⟨rfl, rfl⟩
  | ok context =>
      simp only [Act.bind_apply]
      cases (l.bundle.load l.settings.resourceName l.settings.resourceExtension
          (l.runtime.createContext w).world).value with
      | error e => exact ⟨rfl, rfl⟩
      | ok source =>
          simp only [Act.bind_apply]
          cases (l.runtime.evaluate context source
            (l.bundle.load l.settings.resourceName l.settings.resourceExtension
              (l.runtime.createContext w).world).world).value with
          | error e => exact ⟨rfl, rfl⟩
          | ok _ => exact ⟨rfl, rfl⟩

theorem acquire_lenient (l : Loader W C E) (s : System W E) :
    (l.lenient.acquire s).value = (l.acquire s).value ∧
      (l.lenient.acquire s).world = (l.acquire s).world := by
  cases hslot : s.loader.slot with
  | ready handle =>
      rw [acquire_ready _ hslot, acquire_ready _ hslot]
      exact ⟨rfl, rfl⟩
  | failed reason =>
      rw [acquire_failed _ hslot, acquire_failed _ hslot]
      exact ⟨rfl, rfl⟩
  | empty =>
      obtain ⟨hvalue, hworld⟩ := l.setUp_lenient s.world
      rw [acquire_empty _ hslot, acquire_empty _ hslot, attempt_value, attempt_value,
        attempt_world, attempt_world, hvalue, hworld]
      exact ⟨rfl, rfl⟩

end Loader

/-! ### One attempt -/

namespace Scripted

/-- A new context in which texts have been run. -/
def withContext (s : ScriptedState) (sources : List String) : ScriptedState :=
  { s with
    created := s.created + 1
    evaluated := s.evaluated ++ sources
    contexts := s.contexts ++ [sources] }

theorem createContext_failing {s : ScriptedState} (h : 0 < s.failing) :
    createContext s =
      ⟨.error (.contextCreationFailed "scripted context failure"),
        { s with failing := s.failing - 1 }, []⟩ := by
  obtain ⟨n, hn⟩ := Nat.exists_eq_succ_of_ne_zero (Nat.ne_of_gt h)
  rw [createContext, hn]
  rfl

theorem createContext_zero {s : ScriptedState} (h : s.failing = 0) :
    createContext s = ⟨.ok s.contexts.length, withContext s [], []⟩ := by
  rw [createContext, h, withContext, List.append_nil, h]

theorem evaluate_withContext (s : ScriptedState) (source : String) :
    (evaluate s.contexts.length source (withContext s [])).world = withContext s [source] := by
  simp [evaluate, withContext, List.modify_eq_take_drop]

/-- A new context exposes what the texts run in it mention. -/
theorem intoEngine_withContext (s : ScriptedState) (sources : List String) (name : String) :
    intoEngine s.contexts.length name (withContext s sources) =
      ⟨if sources.any (Text.contains · name) then .ok ⟨s.contexts.length, name⟩
        else .error (.entryPointNotFound name), withContext s sources, []⟩ := by
  have hlast : (withContext s sources).contexts[s.contexts.length]? = some sources := by
    simp [withContext]
  simp only [intoEngine, hlast, Option.getD_some]
  split <;> rfl

/-- Where in a world the runtime keeps its state. -/
structure Part (V : Type) where
  get : V → ScriptedState
  put : V → ScriptedState → V
  get_put : ∀ v s, get (put v s) = s
  put_put : ∀ v s t, put (put v s) t = put v t

variable {V : Type}

def loaderOn (part : Part V) (respond : Responder) (bundle : Bundle V)
    (settings : EngineSettings) : Loader V Nat EngineRef where
  runtime := (runtime respond).on part.get part.put
  bundle := bundle
  settings := settings

/-- What the bundle does in an attempt that has made its context. -/
def loading (part : Part V) (bundle : Bundle V) (settings : EngineSettings) (v : V) :
    Effect V (Except Error String) :=
  bundle.load settings.resourceName settings.resourceExtension
    (part.put v (withContext (part.get v) []))

variable (part : Part V) (respond : Responder) (bundle : Bundle V) (settings : EngineSettings)
  {v : V}

theorem setUp_failing (h : 0 < (part.get v).failing) :
    (loaderOn part respond bundle settings).setUp v =
      ⟨.error (.contextCreationFailed "scripted context failure"),
        part.put v { part.get v with failing := (part.get v).failing - 1 }, []⟩ := by
  simp [Loader.setUp, loaderOn, Runtime.on, Act.on, runtime, createContext_failing h]

theorem setUp_unread {e : Error} (h : (part.get v).failing = 0)
    (hload : (loading part bundle settings v).value = .error e) :
    (loaderOn part respond bundle settings).setUp v =
      ⟨.error e, (loading part bundle settings v).world,
        (loading part bundle settings v).logs⟩ := by
  rw [loading] at *
  simp [Loader.setUp, loaderOn, Runtime.on, Act.on, runtime, createContext_zero h, hload]

/-- Only the text that was loaded in between decides whether there is an entry point. -/
theorem setUp_read {source : String} (h : (part.get v).failing = 0)
    (hload : (loading part bundle settings v).value = .ok source)
    (hkeeps : part.get (loading part bundle settings v).world = withContext (part.get v) []) :
    ((loaderOn part respond bundle settings).setUp v).world =
        part.put (loading part bundle settings v).world (withContext (part.get v) [source]) ∧
      ((loaderOn part respond bundle settings).setUp v).value =
        if Text.contains source settings.entryPoint then
          .ok ⟨(part.get v).contexts.length, settings.entryPoint⟩
        else .error (.entryPointNotFound settings.entryPoint) := by
  -- Whether the payload raises makes a difference to the log only.
  rw [← (Loader.setUp_lenient _ v).1, ← (Loader.setUp_lenient _ v).2]
  rw [loading] at *
  simp [Loader.setUp, Loader.lenient, loaderOn, Runtime.on, Act.on, runtime, createContext_zero h,
    hload, hkeeps, part.get_put, part.put_put, evaluate_withContext, intoEngine_withContext]

end Scripted

/-! ### Attempts one after another -/

/-- What happens to a loader and its world: somebody acquires the engine, or the world changes in
whatever way. -/
inductive LoaderEvent (W : Type) where
  | acquire
  | change (f : W → W)

namespace Loader

variable {W C E : Type} {l : Loader W C E}

def happen (l : Loader W C E) (s : System W E) : LoaderEvent W → System W E
  | .acquire => (l.acquire s).world
  | .change f => { s with world := f s.world }

/-- The system after events, the first of which meets a fresh loader. -/
def afterEvents (l : Loader W C E) (w : W) (events : List (LoaderEvent W)) : System W E :=
  events.foldl l.happen (fresh w)

/-- A loader that tries again has not given up. -/
def Trying (s : System W E) : Prop :=
  ∀ reason, s.loader.slot ≠ .failed reason

theorem Trying.happen (hpolicy : l.settings.loadFailure = .retry) {s : System W E} (h : Trying s)
    (event : LoaderEvent W) : Trying (l.happen s event) := by
  cases event with
  | change f => exact h
  | acquire =>
      intro reason
      cases hslot : s.loader.slot with
      | ready handle =>
          rw [Loader.happen, acquire_ready l hslot]
          exact h reason
      | failed earlier => exact absurd hslot (h earlier)
      | empty =>
          rw [Loader.happen, acquire_empty l hslot, attempt_world, hpolicy]
          cases (l.setUp s.world).value with
          | ok engine => simp [LoaderState.afterAttempt]
          | error e => simp [LoaderState.afterAttempt, slotAfter]

theorem trying_afterEvents (hpolicy : l.settings.loadFailure = .retry) (w : W)
    (events : List (LoaderEvent W)) : Trying (l.afterEvents w events) := by
  have hrun : ∀ s : System W E, Trying s → Trying (events.foldl l.happen s) := by
    induction events with
    | nil => exact fun s h => h
    | cons event events ih => exact fun s h => ih _ (h.happen hpolicy event)
  exact hrun _ nofun

/-- As long as there is no engine, the next acquisition makes an attempt of its own. -/
theorem slot_afterEvents (hpolicy : l.settings.loadFailure = .retry) {w : W}
    {events : List (LoaderEvent W)} (h : (l.afterEvents w events).loader.isLoaded = false) :
    (l.afterEvents w events).loader.slot = .empty := by
  have htrying := trying_afterEvents hpolicy w events
  cases hslot : (l.afterEvents w events).loader.slot with
  | empty => rfl
  | failed reason => exact absurd hslot (htrying reason)
  | ready handle => simp [LoaderState.isLoaded, hslot] at h

end Loader

namespace Scripted

/-- A runtime that runs no scripts, next to whatever a bundle reads. -/
structure Host (W : Type) where
  scripted : ScriptedState := {}
  outside : W

namespace Host

variable {W : Type}

def scriptedPart : Part (Host W) where
  get := scripted
  put h s := { h with scripted := s }
  get_put _ _ := rfl
  put_put _ _ _ := rfl

/-- A bundle next to the runtime, of which it knows nothing. -/
def bundle (b : Bundle W) : Bundle (Host W) where
  load name extension := (b.load name extension).on outside fun h w => { h with outside := w }

def loader (respond : Responder) (b : Bundle W) (settings : EngineSettings) :
    Loader (Host W) Nat EngineRef :=
  loaderOn scriptedPart respond (bundle b) settings

/-- What the bundle finds under the configured name. -/
def payload (b : Bundle W) (settings : EngineSettings) (h : Host W) : Except Error String :=
  (b.load settings.resourceName settings.resourceExtension h.outside).value

variable (respond : Responder) (b : Bundle W) (settings : EngineSettings)

theorem setUp_value (h : Host W) :
    ((loader respond b settings).setUp h).value =
      if 0 < h.scripted.failing then .error (.contextCreationFailed "scripted context failure")
      else (h.payload b settings).bind fun source =>
        if Text.contains source settings.entryPoint then
          .ok ⟨h.scripted.contexts.length, settings.entryPoint⟩
        else .error (.entryPointNotFound settings.entryPoint) := by
  by_cases hfailing : 0 < h.scripted.failing
  · rw [if_pos hfailing, loader, setUp_failing scriptedPart respond (bundle b) settings hfailing]
  · have hzero : h.scripted.failing = 0 := Nat.eq_zero_of_not_pos hfailing
    rw [if_neg hfailing, loader]
    cases hpayload : h.payload b settings with
    | error e =>
        rw [setUp_unread scriptedPart respond (bundle b) settings hzero hpayload]
        rfl
    | ok source => exact (setUp_read scriptedPart respond (bundle b) settings hzero hpayload rfl).2

theorem acquire_value {s : System (Host W) EngineRef} (hslot : s.loader.slot = .empty) :
    ((loader respond b settings).acquire s).value =
      ((loader respond b settings).setUp s.world).value.map
        (EngineHandle.mk (s.loader.attempts + 1)) := by
  rw [Loader.acquire_empty _ hslot, Loader.attempt_value]

/-- What decides an acquisition: the contexts that are still to fail, and then the payload. -/
structure AttemptSpec (s : System (Host W) EngineRef) : Prop where
  no_context : 0 < s.world.scripted.failing →
    ((loader respond b settings).acquire s).value =
      .error (.contextCreationFailed "scripted context failure")
  no_payload : s.world.scripted.failing = 0 → ∀ e, s.world.payload b settings = .error e →
    ((loader respond b settings).acquire s).value = .error e
  no_entryPoint : s.world.scripted.failing = 0 →
    ∀ source, s.world.payload b settings = .ok source →
      ¬ settings.entryPoint.toList <:+: source.toList →
      ((loader respond b settings).acquire s).value =
        .error (.entryPointNotFound settings.entryPoint)
  loaded : s.world.scripted.failing = 0 →
    ∀ source, s.world.payload b settings = .ok source →
      settings.entryPoint.toList <:+: source.toList →
      ∃ handle, ((loader respond b settings).acquire s).value = .ok handle ∧
        handle.engine.entryPoint = settings.entryPoint
  /-- Without the failures of evaluation it comes to the same, in the same state. -/
  evaluation :
    ((loader respond b settings).lenient.acquire s).value =
        ((loader respond b settings).acquire s).value ∧
      ((loader respond b settings).lenient.acquire s).world =
        ((loader respond b settings).acquire s).world
  /-- It fails as it does for a fresh loader whose runtime has evaluated nothing. -/
  alone :
    Loader.failure? ((loader respond b settings).acquire s).value =
      Loader.failure? ((loader respond b settings).acquire (Loader.fresh
        { scripted := { failing := s.world.scripted.failing }
          outside := s.world.outside })).value

theorem attemptSpec_of_empty {s : System (Host W) EngineRef} (hslot : s.loader.slot = .empty) :
    AttemptSpec respond b settings s where
  no_context hfailing := by
    rw [acquire_value respond b settings hslot, setUp_value, if_pos hfailing]
    rfl
  no_payload hzero e hpayload := by
    rw [acquire_value respond b settings hslot, setUp_value, if_neg (by omega), hpayload]
    rfl
  no_entryPoint hzero source hpayload hnone := by
    rw [← Text.contains_iff] at hnone
    rw [acquire_value respond b settings hslot, setUp_value, if_neg (by omega), hpayload,
      Except.bind, if_neg hnone]
    rfl
  loaded hzero source hpayload hsome := by
    rw [← Text.contains_iff] at hsome
    rw [acquire_value respond b settings hslot, setUp_value, if_neg (by omega), hpayload,
      Except.bind, if_pos hsome]
    exact ⟨_, rfl, rfl⟩
  evaluation := Loader.acquire_lenient _ s
  alone := by
    rw [acquire_value respond b settings hslot, acquire_value respond b settings rfl, setUp_value,
      setUp_value]
    show _ = Loader.failure? (Except.map _ (if 0 < s.world.scripted.failing then _
      else (s.world.payload b settings).bind _))
    split
    case isTrue => rfl
    case isFalse =>
      cases s.world.payload b settings with
      | error e => rfl
      | ok source =>
          simp only [Except.bind]
          split <;> rfl

/-- Under a policy that tries again no attempt is affected by those before it, whatever has
changed in between. -/
theorem attempt_spec (hpolicy : settings.loadFailure = .retry) (h : Host W)
    (events : List (LoaderEvent (Host W)))
    (hloaded : ((loader respond b settings).afterEvents h events).loader.isLoaded = false) :
    AttemptSpec respond b settings ((loader respond b settings).afterEvents h events) :=
  attemptSpec_of_empty respond b settings (Loader.slot_afterEvents hpolicy hloaded)

/-- Texts in memory that may be added to. -/
def inMemory : Bundle EmbeddedBundle where
  load name extension := do return (← Act.get).load name extension

/-- A text for the name of the payload. -/
def published (source : String) : LoaderEvent (Host EmbeddedBundle) :=
  .change fun h => { h with outside := h.outside.add "highlight.min" "js" source }

/-- No context, no payload, a payload without the entry point, and one that raises and has it. -/
theorem attempt_spec_after_failures :
    ∃ handle, ((loader (fun _ => echo) inMemory {}).acquire
        ((loader (fun _ => echo) inMemory {}).afterEvents
          { scripted := { failing := 1 }, outside := {} }
          [.acquire, .acquire, published "lunr", .acquire, published "throw hljs"])).value =
      .ok handle ∧ handle.engine.entryPoint = "hljs" := by
  have hspec := attempt_spec (fun _ => echo) inMemory {} rfl
    { scripted := { failing := 1 }, outside := {} }
    [.acquire, .acquire, published "lunr", .acquire, published "throw hljs"] (by rfl)
  exact hspec.loaded (by rfl) "throw hljs" (by rfl) ⟨"throw ".toList, [], rfl⟩

end Host

end Scripted

end LineHighlight
