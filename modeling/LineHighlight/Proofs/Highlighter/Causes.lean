import LineHighlight.Proofs.Engine.Attempts
import LineHighlight.Proofs.Engine.Interpreter
import LineHighlight.Proofs.Highlighter.Growth
import LineHighlight.Proofs.Result.Acceptance

/-! Where the failure of a line comes from.
A runtime and a bundle file a failure by the phase in which it comes up: before there is an
engine, or in its call. Then the failure of a line tells whether its engine was called. -/

namespace LineHighlight

/-! ## Failures filed by phase -/

/-- A runtime whose failures are of initialization when they come up before an engine is made,
and of no initialization in a call. -/
structure Runtime.FilesFailures {W C E : Type} (r : Runtime W C E) : Prop where
  createContext : ∀ {w e}, (r.createContext w).value = .error e → e.isInitialization = true
  intoEngine : ∀ {context entryPoint w e},
    (r.intoEngine context entryPoint w).value = .error e → e.isInitialization = true
  finish : ∀ {engine call text w e},
    (r.finish engine call text w).value = .returned (.error e) → e.isInitialization = false

def Bundle.FilesFailures {W : Type} (b : Bundle W) : Prop :=
  ∀ {name extension w e}, (b.load name extension w).value = .error e → e.isInitialization = true

theorem World.embedded_filesFailures {S : Type} (b : EmbeddedBundle) :
    (embedded (S := S) b).FilesFailures := by
  intro name extension w e h
  have h : b.load name extension = .error e := h
  unfold EmbeddedBundle.load at h
  split at h
  · cases h
  · cases h
    rfl

theorem World.directory_filesFailures {S : Type} (b : DirectoryBundle) :
    (directory (S := S) b).FilesFailures := by
  intro name extension w e h
  have h : b.load w.files w.home name extension = .error e := h
  unfold DirectoryBundle.load at h
  split at h
  · cases h
  · cases h
    rfl
  · cases h
    rfl

namespace Loader

variable {W C E : Type} {l : Loader W C E}

theorem setUp_isInitialization (hruntime : l.runtime.FilesFailures)
    (hbundle : l.bundle.FilesFailures) {w : W} {e : Error} (h : (l.setUp w).value = .error e) :
    e.isInitialization = true := by
  -- A payload that fails while it is evaluated fails no attempt.
  rw [← (l.setUp_lenient w).1] at h
  simp only [setUp, lenient, Act.bind_apply] at h
  cases hcreated : (l.runtime.createContext w).value with
  | error e' =>
      rw [hcreated] at h
      cases h
      exact hruntime.createContext hcreated
  | ok context =>
      simp only [hcreated, Act.bind_apply] at h
      cases hloaded : (l.bundle.load l.settings.resourceName l.settings.resourceExtension
          (l.runtime.createContext w).world).value with
      | error e' =>
          rw [hloaded] at h
          cases h
          exact hbundle hloaded
      | ok source =>
          simp only [hloaded, Act.bind_apply] at h
          exact hruntime.intoEngine h

theorem acquire_isInitialization (hruntime : l.runtime.FilesFailures)
    (hbundle : l.bundle.FilesFailures) {σ : System W E} {e : Error}
    (h : (l.acquire σ).value = .error e) : e.isInitialization = true := by
  cases hslot : σ.loader.slot with
  | ready handle =>
      rw [acquire_ready l hslot] at h
      cases h
  | failed reason =>
      rw [acquire_failed l hslot] at h
      cases h
      rfl
  | empty =>
      rw [acquire_empty l hslot, attempt_value] at h
      cases hsetUp : (l.setUp σ.world).value with
      | ok engine =>
          rw [hsetUp] at h
          cases h
      | error e' =>
          rw [hsetUp] at h
          cases h
          exact setUp_isInitialization hruntime hbundle hsetUp

end Loader

/-! ## Failures of lines -/

namespace Segments

variable {W C E : Type} {s : Segments W C E} {mode : Mode} {line : String} {σ : System W E}

theorem exists_finish_of_callLine {handle : EngineHandle E}
    {ended : Outcome (Except Error Json)}
    (h : (s.callLine mode line handle σ).value = some ended) :
    ∃ w, (s.loader.runtime.finish handle.engine mode.engineCall line w).value = ended := by
  simp only [callLine, Act.bind_apply] at h
  cases hstart : (System.inWorld (s.loader.runtime.start handle.engine mode.engineCall line)
      σ).value with
  | none =>
      rw [hstart] at h
      cases h
  | some duration =>
      rw [hstart] at h
      exact ⟨_, Option.some.inj h⟩

/-- The failure of a line whose engine was made is one of its call or of the answer. -/
theorem run_not_isInitialization (hruntime : s.loader.runtime.FilesFailures)
    {handle : EngineHandle E} (hacquire : (s.loader.acquire σ).value = .ok handle) {e : Error}
    (h : (s.run none mode line σ).value = .done (.error e)) : e.isInitialization = false := by
  rw [run_value hacquire] at h
  cases hcall : (s.callLine mode line handle (s.loader.acquire σ).world).value with
  | none =>
      rw [hcall] at h
      cases h
  | some ended =>
      obtain ⟨w, hfinish⟩ := exists_finish_of_callLine hcall
      rw [hcall] at h
      cases ended with
      | panicked reason => cases h
      | returned answer =>
          have h : answer.bind EngineResult.ofAnswer = .error e := LineRun.done.inj h
          cases answer with
          | error e' =>
              cases h
              exact hruntime.finish hfinish
          | ok json =>
              obtain ⟨reason, rfl⟩ := EngineResult.ofAnswer_eq_error h
              rfl

theorem run_of_acquire_error {e e' : Error} (hacquire : (s.loader.acquire σ).value = .error e')
    (h : (s.run none mode line σ).value = .done (.error e)) : e' = e := by
  simp only [run, Act.bind_apply, hacquire, settle_value] at h
  exact Except.error.inj (LineRun.done.inj h)

/-- A failure tells whether there was an engine. -/
theorem isInitialization_iff_acquire (hruntime : s.loader.runtime.FilesFailures)
    (hbundle : s.loader.bundle.FilesFailures) {e : Error}
    (h : (s.run none mode line σ).value = .done (.error e)) :
    e.isInitialization = true ↔ (s.loader.acquire σ).value = .error e := by
  constructor
  · intro hinitialization
    cases hacquire : (s.loader.acquire σ).value with
    | ok handle =>
        rw [run_not_isInitialization hruntime hacquire h] at hinitialization
        cases hinitialization
    | error e' =>
        rw [run_of_acquire_error hacquire h]
  · exact Loader.acquire_isInitialization hruntime hbundle

/-- The calls that a line makes of its engine. -/
def callsOf (s : Segments W C E) (mode : Mode) (line : String) (σ : System W E) :
    List (EngineCall × String) :=
  (s.recorded.run none mode line (σ.recording [])).world.world.operations.filterMap Operation.call?

theorem calls_acquire (s : Segments W C E) (σ : System W E) :
    (s.recorded.loader.acquire (σ.recording [])).world.world.operations.filterMap
      Operation.call? = [] := by
  obtain ⟨block, hgrew⟩ := s.loader.acquire_grew (σ.recording [])
  have hoperations : (s.recorded.loader.acquire (σ.recording [])).world.world.operations = block :=
    hgrew.operations_eq
  rw [hoperations]
  exact List.sublist_nil.mp hgrew.calls_sublist

theorem callsOf_of_acquire_ok {handle : EngineHandle E}
    (h : (s.loader.acquire σ).value = .ok handle) (mode : Mode) (line : String) :
    s.callsOf mode line σ = [(mode.engineCall, line)] := by
  have hacquire : (s.recorded.loader.acquire (σ.recording [])).value = .ok handle :=
    (s.loader.recorded_lifts.acquire.value_eq _).trans h
  rw [callsOf, (s.run_recorded mode line hacquire).2, List.filterMap_append, calls_acquire]
  rfl

theorem callsOf_of_acquire_error {e : Error} (h : (s.loader.acquire σ).value = .error e)
    (mode : Mode) (line : String) : s.callsOf mode line σ = [] := by
  have hacquire : (s.recorded.loader.acquire (σ.recording [])).value = .error e :=
    (s.loader.recorded_lifts.acquire.value_eq _).trans h
  have hworld : (s.recorded.run none mode line (σ.recording [])).world =
      (s.recorded.loader.acquire (σ.recording [])).world := by
    simp [run, hacquire]
  rw [callsOf, hworld, calls_acquire]

end Segments

/-! ## Lines with scripts -/

theorem EngineCall.decode_isInitialization {call : EngineCall} {json : Option String} {e : Error}
    (h : call.decode json = .error e) : e.isInitialization = false := by
  unfold decode at h
  split at h
  · cases h
    rfl
  · split at h
    · cases h
    · cases h
      rfl

/-- How a call of an engine fails, by what its method has come to: in the script, in the reading
of its result, or because the result is no answer. -/
inductive EngineCall.Fails (call : EngineCall) (outcome : Except String (Option String)) :
    Error → Prop
  | script (message : String) (h : outcome = .error message) : Fails call outcome (.engine message)
  | unreadable (json : Option String) (e : Error) (hcalled : outcome = .ok json)
      (h : call.decode json = .error e) : Fails call outcome e
  | malformed (json : Option String) (answer : Json) (e : Error) (hcalled : outcome = .ok json)
      (hread : call.decode json = .ok answer) (h : EngineResult.ofAnswer answer = .error e) :
      Fails call outcome e

theorem EngineCall.fails_iff {call : EngineCall} {outcome : Except String (Option String)}
    {e : Error} :
    call.Fails outcome e ↔ (call.answer outcome).bind EngineResult.ofAnswer = .error e := by
  constructor
  · rintro (⟨message, rfl⟩ | ⟨json, e, rfl, h⟩ | ⟨json, answer, e, rfl, hread, h⟩)
    · rfl
    · simp only [answer, h, Except.bind]
    · simp only [EngineCall.answer, hread, Except.bind, h]
  · intro h
    cases outcome with
    | error message =>
        cases h
        exact .script message rfl
    | ok json =>
        simp only [answer] at h
        cases hread : call.decode json with
        | error e' =>
            rw [hread] at h
            cases h
            exact .unreadable json e rfl hread
        | ok answer =>
            rw [hread] at h
            exact .malformed json answer e rfl hread h

/-- Where the loader of a service finds its payload. -/
inductive Store where
  | embedded (b : EmbeddedBundle)
  | directory (b : DirectoryBundle)

/-- The bundle of a store. -/
def Store.bundle {S : Type} : Store → Bundle (World S)
  | embedded b => World.embedded b
  | directory b => World.directory b

theorem Store.bundle_filesFailures {S : Type} (store : Store) :
    (store.bundle (S := S)).FilesFailures := by
  cases store with
  | embedded b => exact World.embedded_filesFailures b
  | directory b => exact World.directory_filesFailures b

namespace ScriptLibrary

variable {S V : Type} [Inhabited S] (lib : ScriptLibrary S V)

/-- Whatever the library does, its failures are filed by the phase in which they come up. -/
theorem runtime_filesFailures (limits : ScriptLimits) :
    (lib.runtime limits).FilesFailures where
  createContext := by
    intro w e h
    have h : (lib.createContext limits w).value = .error e := h
    cases hmade : lib.boundedRuntime limits w.runtimes >>= lib.newContext with
    | ok state => simp [createContext, hmade] at h
    | error message =>
        simp only [createContext, Act.bind_apply, Act.get_apply, hmade] at h
        cases h
        rfl
  intoEngine := by
    intro context entryPoint w e h
    have h : (lib.intoEngine context entryPoint w).value = .error e := h
    simp only [intoEngine, Act.bind_apply] at h
    cases hexposed : (World.execute context (lib.target entryPoint) w).value with
    | none =>
        simp only [hexposed] at h
        cases h
        rfl
    | some outcome =>
        simp only [hexposed] at h
        cases outcome with
        | ok object => cases h
        | error message =>
            cases h
            rfl
  finish := by
    intro engine call text w e h
    have h : (lib.finish engine call text w).value = .returned (.error e) := h
    cases hrunning : lib.running engine call text w with
    | none => simp [finish, hrunning] at h
    | some ended =>
        rw [(lib.finish_of_running engine call text w hrunning).1] at h
        have h := Outcome.returned.inj h
        cases houtcome : ended.outcome with
        | error message =>
            rw [houtcome] at h
            cases h
            rfl
        | ok json =>
            rw [houtcome] at h
            exact EngineCall.decode_isInitialization h

variable {lib} {limits : ScriptLimits} {bundle : Bundle (World S)} {settings : EngineSettings}
  {mode : Mode} {line : String} {σ : System (World S) EngineRef}

/-- How the call of a line's engine has failed. -/
def CallFailed (lib : ScriptLibrary S V) (handle : EngineHandle EngineRef) (mode : Mode)
    (line : String) (w : World S) (e : Error) : Prop :=
  ∃ ended, lib.called handle.engine mode.engineCall line (w.context handle.engine.context) w.now =
    some ended ∧ mode.engineCall.Fails ended.outcome e

theorem callFailed_of_run {handle : EngineHandle EngineRef}
    (hacquire : ((lib.segments limits bundle settings).loader.acquire σ).value = .ok handle)
    {e : Error}
    (h : ((lib.segments limits bundle settings).run none mode line σ).value =
      .done (.error e)) :
    lib.CallFailed handle mode line
      ((lib.segments limits bundle settings).loader.acquire σ).world.world e := by
  rw [lib.run_value hacquire rfl] at h
  split at h
  · cases h
  · rename_i ended hcalled
    exact ⟨ended, hcalled, EngineCall.fails_iff.mpr (LineRun.done.inj h)⟩

/-- What the failure of a line tells of its engine. -/
structure CauseSpec (lib : ScriptLibrary S V) (s : Segments (World S) Nat EngineRef) (mode : Mode)
    (line : String) (σ : System (World S) EngineRef) (e : Error) : Prop where
  not_called_iff : e.isInitialization = true ↔ s.callsOf mode line σ = []
  not_acquired_iff : e.isInitialization = true ↔ (s.loader.acquire σ).value = .error e
  /-- The engine was called once, and its call, the reading of the result or the decoding failed. -/
  called_iff : e.isInitialization = false ↔ ∃ handle, (s.loader.acquire σ).value = .ok handle ∧
    s.callsOf mode line σ = [(mode.engineCall, line)] ∧
    lib.CallFailed handle mode line (s.loader.acquire σ).world.world e

theorem cause_spec (lib : ScriptLibrary S V) (limits : ScriptLimits) (store : Store)
    (settings : EngineSettings) (mode : Mode) (line : String) (σ : System (World S) EngineRef)
    (e : Error)
    (h : ((lib.segments limits store.bundle settings).run none mode line σ).value =
      .done (.error e)) :
    CauseSpec lib (lib.segments limits store.bundle settings) mode line σ e := by
  have hiff := Segments.isInitialization_iff_acquire (lib.runtime_filesFailures limits)
    store.bundle_filesFailures h
  cases hacquire : ((lib.segments limits store.bundle settings).loader.acquire σ).value with
  | error e' =>
      rw [Segments.run_of_acquire_error hacquire h] at hacquire
      have htrue := hiff.mpr hacquire
      have hcalls := Segments.callsOf_of_acquire_error hacquire mode line
      exact
        { not_called_iff := by simp [htrue, hcalls]
          not_acquired_iff := hiff
          called_iff := by simp [htrue, hcalls] }
  | ok handle =>
      have hfalse : e.isInitialization = false :=
        Segments.run_not_isInitialization (lib.runtime_filesFailures limits) hacquire h
      have hcalls := Segments.callsOf_of_acquire_ok hacquire mode line
      exact
        { not_called_iff := by simp [hfalse, hcalls]
          not_acquired_iff := hiff
          called_iff :=
            ⟨fun _ => ⟨handle, hacquire, hcalls, callFailed_of_run hacquire h⟩, fun _ => hfalse⟩ }

end ScriptLibrary

/-- A system whose engine has been made and carries out an action in every call without a
grammar. -/
def World.prepared (action : Script.Action) : System World EngineRef where
  loader := { slot := .ready ⟨1, ⟨0, "hljs"⟩⟩, attempts := 1 }
  world := { contexts := [{ state := { globals := [⟨"hljs", .engine hljs, true, true⟩] } }] }
where
  hljs : Script.EngineObject := { members := [("highlightAuto", .cases [{ action }])] }

/-- The failure of a function that calls itself without an end. -/
theorem ScriptLibrary.cause_spec_recursion :
    let s := Script.library.segments {} (Store.embedded {}).bundle {}
    (s.run none .automatic "a" (World.prepared .recurse)).value =
        .done (.error (.engine "Error: Maximum call stack size exceeded")) ∧
      s.callsOf .automatic "a" (World.prepared .recurse) = [(.auto, "a")] := by
  intro s
  have hrun : (s.run none .automatic "a" (World.prepared .recurse)).value =
      .done (.error (.engine "Error: Maximum call stack size exceeded")) := by
    rfl
  have hspec := cause_spec Script.library {} (.embedded {}) {} .automatic "a"
    (World.prepared .recurse) _ hrun
  obtain ⟨handle, -, hcalls, -⟩ := hspec.called_iff.mp rfl
  exact ⟨hrun, hcalls⟩

end LineHighlight
