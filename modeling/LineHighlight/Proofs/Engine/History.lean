import LineHighlight.Proofs.Engine.Acquisition
import LineHighlight.World

/-! What callers of a loader get to see, over every sequence of requests to it.
One invariant ties the loader's state to the outcomes handed out so far and to the record of
what was asked of the runtime and the bundle. -/

namespace LineHighlight

/-- What callers ask of a loader. -/
inductive LoaderRequest where
  | acquire
  | isLoaded
  | attempts
deriving DecidableEq, Repr

/-- What a loader tells them. -/
inductive LoaderReply (E : Type) where
  | acquired (outcome : Except Error (EngineHandle E))
  | isLoaded (loaded : Bool)
  | attempts (count : Nat)

/-- The outcome of an acquisition. -/
def LoaderReply.outcome? {E : Type} : LoaderReply E → Option (Except Error (EngineHandle E))
  | acquired outcome => some outcome
  | isLoaded _ | attempts _ => none

namespace Loader

variable {V W C E : Type}

/-- Answers one request. -/
def reply (l : Loader W C E) : LoaderRequest → Act (System W E) (LoaderReply E)
  | .acquire => do return .acquired (← l.acquire)
  | .isLoaded => do return .isLoaded (← Act.get).loader.isLoaded
  | .attempts => do return .attempts (← Act.get).loader.attempts

/-- Answers requests in the order in which they come. -/
def replies (l : Loader W C E) : List LoaderRequest → Act (System W E) (List (LoaderReply E))
  | [] => return []
  | request :: rest => do
    let first ← l.reply request
    let others ← l.replies rest
    return first :: others

/-- The system in which nothing has been asked of the loader yet. -/
def fresh (w : W) : System W E where
  loader := {}
  world := w

/-- The system after requests to a fresh loader. -/
def after (l : Loader W C E) (w : W) (requests : List LoaderRequest) : System W E :=
  (l.replies requests (fresh w)).world

/-- The outcomes of the acquisitions among the requests to a fresh loader. -/
def outcomes (l : Loader W C E) (w : W) (requests : List LoaderRequest) :
    List (Except Error (EngineHandle E)) :=
  (l.replies requests (fresh w)).value.filterMap LoaderReply.outcome?

/-- What a fresh loader asks of the runtime and the bundle on requests. -/
def operations (l : Loader W C E) (w : W) (requests : List LoaderRequest) :
    List (Operation C E) :=
  (l.recorded.replies requests (fresh { world := w })).world.world.operations

/-! ## Sequences of requests -/

theorem replies_append (l : Loader W C E) (first later : List LoaderRequest) (s : System W E) :
    (l.replies (first ++ later) s).value =
        (l.replies first s).value ++ (l.replies later (l.replies first s).world).value ∧
      (l.replies (first ++ later) s).world =
        (l.replies later (l.replies first s).world).world := by
  induction first generalizing s with
  | nil => simp [replies]
  | cons request rest ih => simp [replies, ih]

theorem Lifts.reply {part : V → W} {l : Loader V C E} {m : Loader W C E} (h : l.Lifts part m)
    (request : LoaderRequest) :
    Act.Lifts (System.map part) (l.reply request) (m.reply request) := by
  cases request with
  | acquire => exact h.acquire.bind fun _ => Act.lifts_pure _
  | isLoaded => exact fun _ => rfl
  | attempts => exact fun _ => rfl

theorem Lifts.replies {part : V → W} {l : Loader V C E} {m : Loader W C E} (h : l.Lifts part m)
    (requests : List LoaderRequest) :
    Act.Lifts (System.map part) (l.replies requests) (m.replies requests) := by
  induction requests with
  | nil => exact Act.lifts_pure _
  | cons request rest ih =>
      exact (h.reply request).bind fun _ => ih.bind fun _ => Act.lifts_pure _

/-- A loader that is ready gives its handle to every later caller and changes nothing. -/
theorem replies_ready (l : Loader W C E) (requests : List LoaderRequest) {s : System W E}
    {handle : EngineHandle E} (h : s.loader.slot = .ready handle) :
    (l.replies requests s).world = s ∧
      (l.replies requests s).value.filterMap LoaderReply.outcome? =
        List.replicate (requests.count .acquire) (.ok handle) := by
  induction requests with
  | nil => simp [replies]
  | cons request rest ih =>
      cases request with
      | acquire =>
          simp [replies, reply, l.acquire_ready h, ih, LoaderReply.outcome?,
            List.replicate_succ]
      | isLoaded => simp [replies, reply, ih, LoaderReply.outcome?, List.filterMap_cons]
      | attempts => simp [replies, reply, ih, LoaderReply.outcome?, List.filterMap_cons]

/-! ## The invariant -/

/-- The outcomes that have been handed out when a loader is in a state, oldest first. -/
inductive HandedOut (policy : LoadFailure) :
    LoaderState E → List (Except Error (EngineHandle E)) → Prop where
  | trying (failures : List Error) {lock engineLock : Lock}
      (h : policy = .failFast → failures = []) :
      HandedOut policy ⟨.empty, failures.length, lock, engineLock⟩ (failures.map .error)
  | loaded (failures : List Error) (handle : EngineHandle E) (again : Nat)
      {lock engineLock : Lock} (h : policy = .failFast → failures = []) :
      HandedOut policy ⟨.ready handle, failures.length + 1, lock, engineLock⟩
        (failures.map .error ++ List.replicate (again + 1) (.ok handle))
  | gaveUp (e : Error) (again : Nat) {lock engineLock : Lock} (h : policy = .failFast) :
      HandedOut policy ⟨.failed e.message, 1, lock, engineLock⟩
        (.error e :: List.replicate again (.error (.engineUnavailable e.message)))

/-- Every context was an attempt, every engine is in the slot, and under a policy that tries
again the failures are those of the runtime and the bundle. -/
structure History (l : Loader W C E) (s : System (Recorded W C E) E)
    (outcomes : List (Except Error (EngineHandle E))) : Prop where
  handedOut : HandedOut l.settings.loadFailure s.loader outcomes
  contexts : s.world.operations.countP Operation.isCreateContext = s.loader.attempts
  engines : s.world.operations.countP Operation.givesEngine = if s.loader.isLoaded then 1 else 0
  obstacles : l.settings.loadFailure = .retry →
    outcomes.filterMap failure? = s.world.operations.filterMap Operation.obstacle?

theorem filterMap_failure? (failures : List Error) :
    (failures.map (.error : Error → Except Error (EngineHandle E))).filterMap failure? =
      failures := by
  simp [List.filterMap_map, Function.comp_def]

theorem history_fresh (l : Loader W C E) (w : W) : History l (fresh { world := w }) [] where
  handedOut := .trying [] fun _ => rfl
  contexts := rfl
  engines := rfl
  obstacles _ := rfl

/-- An attempt that succeeds ends the failures, one that fails adds to them. -/
theorem HandedOut.attempt {policy : LoadFailure} {outcome : Except Error E}
    {failures : List Error} (s : LoaderState E) (h : policy = .failFast → failures = []) :
    HandedOut policy (s.afterAttempt policy (failures.length + 1) outcome)
      (failures.map .error ++ [outcome.map (EngineHandle.mk (failures.length + 1))]) := by
  cases outcome with
  | ok engine => exact .loaded failures ⟨failures.length + 1, engine⟩ 0 h
  | error e =>
      cases policy with
      | retry =>
          have hnext : HandedOut (E := E) .retry
              ⟨.empty, (failures ++ [e]).length, s.lock, s.engineLock⟩ _ :=
            .trying (failures ++ [e]) (by simp)
          simpa [LoaderState.afterAttempt, slotAfter, Except.map] using hnext
      | failFast =>
          obtain rfl := h rfl
          exact .gaveUp e 0 rfl

/-- The attempt of a loader that has only seen failures, whatever becomes of it. -/
theorem history_attempt (l : Loader W C E) (failures : List Error) (r : Recorded W C E)
    (lock engineLock : Lock) (hfirst : l.settings.loadFailure = .failFast → failures = [])
    (hcontexts : r.operations.countP Operation.isCreateContext = failures.length)
    (hengines : r.operations.countP Operation.givesEngine = 0)
    (hobstacles : l.settings.loadFailure = .retry →
      failures = r.operations.filterMap Operation.obstacle?) :
    History l (l.recorded.attempt (failures.length + 1)
        ⟨⟨.empty, failures.length, lock, engineLock⟩, r⟩).world
      (failures.map .error ++ [(l.recorded.attempt (failures.length + 1)
        ⟨⟨.empty, failures.length, lock, engineLock⟩, r⟩).value]) := by
  obtain ⟨operations, hattempted, hrecord⟩ := l.setUp_recorded r
  rw [attempt_value, attempt_world]
  refine ⟨HandedOut.attempt _ hfirst, ?_, ?_, ?_⟩
  · simp only [hrecord, List.countP_append, hcontexts, hattempted.contexts]
    cases (l.recorded.setUp r).value <;> rfl
  · simp only [hrecord, List.countP_append, hengines]
    cases houtcome : (l.recorded.setUp r).value with
    | ok engine =>
        rw [houtcome] at hattempted
        simp [hattempted.engines, LoaderState.afterAttempt, LoaderState.isLoaded]
    | error e =>
        rw [houtcome] at hattempted
        cases hpolicy : l.recorded.settings.loadFailure <;>
          simp [hattempted.no_engines, LoaderState.afterAttempt, LoaderState.isLoaded, slotAfter]
  · intro hpolicy
    simp only [hrecord, List.filterMap_append, ← hobstacles hpolicy, hattempted.obstacles,
      filterMap_failure?]
    cases (l.recorded.setUp r).value <;> rfl

theorem History.acquire {l : Loader W C E} {s : System (Recorded W C E) E}
    {outcomes : List (Except Error (EngineHandle E))} (h : History l s outcomes) :
    History l (l.recorded.acquire s).world (outcomes ++ [(l.recorded.acquire s).value]) := by
  obtain ⟨state, r⟩ := s
  obtain ⟨handedOut, contexts, engines, obstacles⟩ := h
  cases handedOut with
  | trying failures hfirst =>
      rw [acquire_empty _ rfl]
      refine history_attempt l failures r _ _ hfirst contexts engines fun hpolicy => ?_
      rw [← obstacles hpolicy, filterMap_failure?]
  | loaded failures handle again hfirst =>
      rw [acquire_ready _ rfl, List.append_assoc, ← List.replicate_succ']
      refine ⟨.loaded failures handle (again + 1) hfirst, contexts, engines, ?_⟩
      intro hpolicy
      rw [← obstacles hpolicy]
      simp [List.replicate_succ', List.filterMap_cons]
  | gaveUp e again hpolicy =>
      rw [acquire_failed _ rfl, List.cons_append, ← List.replicate_succ']
      refine ⟨.gaveUp e (again + 1) hpolicy, contexts, engines, ?_⟩
      intro hretry
      simp [hretry] at hpolicy

theorem History.reply {l : Loader W C E} {s : System (Recorded W C E) E}
    {outcomes : List (Except Error (EngineHandle E))} (h : History l s outcomes)
    (request : LoaderRequest) :
    History l (l.recorded.reply request s).world
      (outcomes ++ (l.recorded.reply request s).value.outcome?.toList) := by
  cases request with
  | acquire => exact h.acquire
  | isLoaded => simpa [Loader.reply, LoaderReply.outcome?] using h
  | attempts => simpa [Loader.reply, LoaderReply.outcome?] using h

/-- The invariant holds after every sequence of requests. -/
theorem History.replies {l : Loader W C E} {s : System (Recorded W C E) E}
    {outcomes : List (Except Error (EngineHandle E))} (h : History l s outcomes)
    (requests : List LoaderRequest) :
    History l (l.recorded.replies requests s).world
      (outcomes ++ (l.recorded.replies requests s).value.filterMap LoaderReply.outcome?) := by
  induction requests generalizing s outcomes with
  | nil => simpa [Loader.replies] using h
  | cons request rest ih =>
      have hrest := ih (h.reply request)
      cases hreply : (l.recorded.reply request s).value.outcome? with
      | none => simpa [Loader.replies, hreply, List.filterMap_cons] using hrest
      | some outcome => simpa [Loader.replies, hreply, List.filterMap_cons] using hrest

/-! ## What callers can rely on -/

theorem HandedOut.slot_eq {policy : LoadFailure} {state : LoaderState E}
    {outcomes : List (Except Error (EngineHandle E))} (h : HandedOut policy state outcomes)
    {handle : EngineHandle E} (hmem : .ok handle ∈ outcomes) : state.slot = .ready handle := by
  cases h with
  | trying => simp at hmem
  | loaded => simp_all
  | gaveUp => simp at hmem

theorem HandedOut.isLoaded_eq {policy : LoadFailure} {state : LoaderState E}
    {outcomes : List (Except Error (EngineHandle E))} (h : HandedOut policy state outcomes) :
    state.isLoaded = outcomes.any Except.isOk := by
  cases h with
  | trying => simp [LoaderState.isLoaded, Except.isOk, Except.toBool]
  | loaded => simp [LoaderState.isLoaded, Except.isOk, Except.toBool]
  | gaveUp => simp [LoaderState.isLoaded, Except.isOk, Except.toBool]

theorem HandedOut.attempts_of_retry {policy : LoadFailure} {state : LoaderState E}
    {outcomes : List (Except Error (EngineHandle E))} (h : HandedOut policy state outcomes)
    (hretry : policy = .retry) :
    state.attempts =
      outcomes.countP (fun outcome => !outcome.isOk) + if state.isLoaded then 1 else 0 := by
  cases h with
  | trying failures =>
      simp [LoaderState.isLoaded, List.countP_map, Function.comp_def, Except.isOk, Except.toBool]
  | loaded failures =>
      simp [LoaderState.isLoaded, List.countP_map, Function.comp_def, List.countP_replicate,
        Except.isOk, Except.toBool]
  | gaveUp e again hpolicy => simp [hretry] at hpolicy

theorem HandedOut.attempts_of_failFast {policy : LoadFailure} {state : LoaderState E}
    {outcomes : List (Except Error (EngineHandle E))} (h : HandedOut policy state outcomes)
    (hpolicy : policy = .failFast) : state.attempts ≤ 1 := by
  cases h with
  | trying failures hfirst => simp [hfirst hpolicy]
  | loaded failures handle again hfirst => simp [hfirst hpolicy]
  | gaveUp => exact Nat.le_refl 1

theorem HandedOut.tail_of_failFast {policy : LoadFailure} {state : LoaderState E} {e : Error}
    {outcomes : List (Except Error (EngineHandle E))} (h : HandedOut policy state outcomes)
    (hpolicy : policy = .failFast) (hhead : outcomes.head? = some (.error e)) :
    ∀ outcome ∈ outcomes.tail, outcome = .error (.engineUnavailable e.message) := by
  cases h with
  | trying failures hfirst => simp [hfirst hpolicy] at hhead
  | loaded failures handle again hfirst => simp [hfirst hpolicy, List.replicate_succ] at hhead
  | gaveUp failure again =>
      obtain rfl : failure = e := by simpa using hhead
      intro outcome hmem
      exact (List.mem_replicate.mp hmem).2

/-- The recorded loader gives the same replies and is left in the same state. -/
theorem recorded_replies (l : Loader W C E) (w : W) (requests : List LoaderRequest) :
    (l.recorded.replies requests (fresh { world := w })).value =
        (l.replies requests (fresh w)).value ∧
      System.map Recorded.world (l.recorded.replies requests (fresh { world := w })).world =
        l.after w requests :=
  ⟨(l.recorded_lifts.replies requests).value_eq _, (l.recorded_lifts.replies requests).world_eq _⟩

theorem history (l : Loader W C E) (w : W) (requests : List LoaderRequest) :
    History l (l.recorded.replies requests (fresh { world := w })).world
      (l.outcomes w requests) := by
  have h := (history_fresh l w).replies requests
  rwa [List.nil_append, (recorded_replies l w requests).1] at h

theorem recorded_loader (l : Loader W C E) (w : W) (requests : List LoaderRequest) :
    (l.recorded.replies requests (fresh { world := w })).world.loader =
      (l.after w requests).loader :=
  congrArg System.loader (recorded_replies l w requests).2

theorem handedOut (l : Loader W C E) (w : W) (requests : List LoaderRequest) :
    HandedOut l.settings.loadFailure (l.after w requests).loader (l.outcomes w requests) := by
  have h := (history l w requests).handedOut
  rwa [recorded_loader] at h

section Settled

variable {l : Loader W C E} {w : W} {requests : List LoaderRequest} {handle : EngineHandle E}

theorem outcomes_settled (h : .ok handle ∈ l.outcomes w requests) (later : List LoaderRequest) :
    l.outcomes w (requests ++ later) =
      l.outcomes w requests ++ List.replicate (later.count .acquire) (.ok handle) := by
  have hready := replies_ready l later ((handedOut l w requests).slot_eq h)
  rw [outcomes, (replies_append l requests later _).1, List.filterMap_append]
  exact congrArg (l.outcomes w requests ++ ·) hready.2

theorem operations_settled (h : .ok handle ∈ l.outcomes w requests) (later : List LoaderRequest) :
    l.operations w (requests ++ later) = l.operations w requests := by
  have hslot : (l.recorded.replies requests (fresh { world := w })).world.loader.slot =
      .ready handle := by
    rw [recorded_loader]
    exact (handedOut l w requests).slot_eq h
  rw [operations, (replies_append l.recorded requests later _).2,
    (replies_ready l.recorded later hslot).1]
  rfl

end Settled

/-- What holds of a loader after any requests to it, whatever its runtime and its bundle do. -/
structure LoaderSpec (l : Loader W C E) (w : W) (requests : List LoaderRequest) : Prop where
  one_engine : (l.operations w requests).countP Operation.givesEngine ≤ 1
  one_handle : ∀ first second, .ok first ∈ l.outcomes w requests →
    .ok second ∈ l.outcomes w requests → first = second
  /-- Once there is a handle every later acquisition gives it, and nothing more is asked of the
  runtime or the bundle. -/
  settled : ∀ handle, .ok handle ∈ l.outcomes w requests → ∀ later,
    l.outcomes w (requests ++ later) =
        l.outcomes w requests ++ List.replicate (later.count .acquire) (.ok handle) ∧
      l.operations w (requests ++ later) = l.operations w requests
  attempts_reply : (l.reply .attempts (l.after w requests)).value =
    .attempts ((l.operations w requests).countP Operation.isCreateContext)
  isLoaded_reply : (l.reply .isLoaded (l.after w requests)).value =
    .isLoaded ((l.outcomes w requests).any Except.isOk)
  retry_attempts : l.settings.loadFailure = .retry → (l.after w requests).loader.attempts =
    (l.outcomes w requests).countP (fun outcome => !outcome.isOk) +
      if (l.after w requests).loader.isLoaded then 1 else 0
  /-- A loader that tries again hands out the failures of the runtime and the bundle, each once
  and in order, and makes none itself. -/
  retry_failures : l.settings.loadFailure = .retry →
    (l.outcomes w requests).filterMap failure? =
      (l.operations w requests).filterMap Operation.obstacle?
  /-- In particular it calls the engine unavailable only where one of them has. -/
  retry_unavailable : l.settings.loadFailure = .retry → ∀ reason,
    .error (.engineUnavailable reason) ∈ l.outcomes w requests →
    ∃ operation ∈ l.operations w requests,
      operation.obstacle? = some (.engineUnavailable reason)
  failFast_attempts : l.settings.loadFailure = .failFast →
    (l.after w requests).loader.attempts ≤ 1
  failFast_failed : l.settings.loadFailure = .failFast →
    ∀ e, (l.outcomes w requests).head? = some (.error e) →
      ∀ outcome ∈ (l.outcomes w requests).tail, outcome = .error (.engineUnavailable e.message)

theorem loader_spec (l : Loader W C E) (w : W) (requests : List LoaderRequest) :
    LoaderSpec l w requests where
  one_engine := by
    rw [operations, (history l w requests).engines]
    split <;> omega
  one_handle first second hfirst hsecond := by
    have hstate := handedOut l w requests
    have hslot := (hstate.slot_eq hfirst).symm.trans (hstate.slot_eq hsecond)
    simpa using hslot
  settled handle h later := ⟨outcomes_settled h later, operations_settled h later⟩
  attempts_reply := by
    rw [operations, (history l w requests).contexts, recorded_loader]
    rfl
  isLoaded_reply := by
    rw [← (handedOut l w requests).isLoaded_eq]
    rfl
  retry_attempts hretry := (handedOut l w requests).attempts_of_retry hretry
  retry_failures := (history l w requests).obstacles
  retry_unavailable hretry reason hmem := by
    have hfailure : .engineUnavailable reason ∈ (l.outcomes w requests).filterMap failure? :=
      List.mem_filterMap.mpr ⟨_, hmem, rfl⟩
    rw [(history l w requests).obstacles hretry] at hfailure
    exact List.mem_filterMap.mp hfailure
  failFast_attempts hpolicy := (handedOut l w requests).attempts_of_failFast hpolicy
  failFast_failed hpolicy _ hhead := (handedOut l w requests).tail_of_failFast hpolicy hhead

/-- A loader whose runtime calls the engine unavailable itself. -/
def unavailable : Loader Unit Unit Unit where
  runtime :=
    { name := "none"
      createContext := return .error (.engineUnavailable "no runtime")
      evaluate := fun _ _ => return .ok ()
      intoEngine := fun _ _ => return .ok ()
      start := fun _ _ _ => return none
      finish := fun _ _ _ => return .panicked "no engine" }
  bundle := { load := fun _ _ => return .ok "" }
  settings := {}

/-- A loader with a payload, for a runtime that others use as well. -/
def shared : Loader World Nat EngineRef where
  runtime := World.scriptedRuntime Scripted.echo
  bundle := World.embedded { entries := [("highlight.min.js", "var hljs = {};")] }
  settings := {}

/-- A loader that tries again passes on that the engine is unavailable, and it counts its own
attempts and none of the contexts that others make. -/
theorem unavailable_passed_on :
    unavailable.settings.loadFailure = .retry ∧
      unavailable.outcomes () [.acquire] = [.error (.engineUnavailable "no runtime")] ∧
      ∃ σ, shared.after {} [.acquire] = σ ∧ σ.world.scripted.created = 1 ∧
        ∃ τ, (System.inWorld shared.runtime.createContext σ).world = τ ∧
          τ.world.scripted.created = 2 ∧ (shared.reply .attempts τ).value = .attempts 1 := by
  refine ⟨rfl, rfl, _, rfl, ?_, _, rfl, ?_, ?_⟩
  all_goals rfl

end Loader

end LineHighlight
