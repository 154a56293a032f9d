import LineHighlight.Proofs.Engine.Interpreter
import LineHighlight.Proofs.Script.Library

/-! Calls of one engine that are interrupted when they have run too long.
The handler of a context looks into the slot of the deadline, which is filled while a call runs and
at no other time, with the end of that call's own time. So a call is interrupted on its own account
only, and leaves no trace for those that follow. -/

namespace LineHighlight

/-! ## The slot -/

namespace Phase

variable {S : Type}

/-- The moment at which the call that runs is to be stopped. -/
def deadline (timeout : Nat) : Phase S → Option Nat
  | loading | idle => none
  | running r => some (r.since + timeout)

/-- When the call that runs was started. -/
def since? : Phase S → Option Nat
  | loading | idle => none
  | running r => some r.since

end Phase

variable {S V : Type}

/-- Some calls were ended after others, and something holds of each of them. -/
def EndedSince (P : EndedCall S → Prop) (before after : List (EndedCall S)) : Prop :=
  ∃ later, after = before ++ later ∧ ∀ e ∈ later, P e

theorem EndedSince.refl (P : EndedCall S → Prop) (before : List (EndedCall S)) :
    EndedSince P before before :=
  ⟨[], (List.append_nil before).symm, by simp⟩

theorem EndedSince.snoc {P : EndedCall S → Prop} {before after : List (EndedCall S)}
    (h : EndedSince P before after) {e : EndedCall S} (he : P e) :
    EndedSince P before (after ++ [e]) := by
  obtain ⟨later, rfl, hlater⟩ := h
  refine ⟨later ++ [e], List.append_assoc _ _ _, fun e' he' => ?_⟩
  rcases List.mem_append.mp he' with he' | he'
  · exact hlater e' he'
  · exact List.mem_singleton.mp he' ▸ he

variable [Inhabited S]

/-- The context of an engine as the phase of its use has it. -/
structure Session.Watched (n timeout : Nat) (s : Session S) : Prop where
  timeout_eq : (s.world.context n).deadline.timeout = some timeout
  isWatched : (s.world.context n).isWatched = true
  slot_eq : (s.world.context n).deadline.expiresAt = s.phase.deadline timeout
  since_eq : (s.world.context n).since = s.phase.since?
  /-- Nothing happens to the state of the context while a call runs. -/
  found_eq : ∀ r, s.phase = .running r → (s.world.context n).state = r.found

namespace ScriptLibrary

variable (lib : ScriptLibrary S V) (engine : EngineRef) (timeout : Nat)

/-- What a call comes to that is made at a moment in a state of the context: it is stopped when
its own time is up. -/
def limited (call : EngineCall) (text : String) (since : Nat) (found : S) :
    Option (Completion S (Option String)) :=
  lib.callMethod engine.entryPoint call text { from? := some (since + timeout) } since found

/-- A call that was ended when it had come to what it comes to. -/
def Made (e : EndedCall S) : Prop :=
  ∃ c, lib.limited engine timeout e.started.call e.started.text e.started.since e.started.found =
      some c ∧
    e.outcome = .returned (e.started.call.answer c.outcome) ∧ e.started.since + c.took ≤ e.endedAt

end ScriptLibrary

namespace Session.Watched

variable {lib : ScriptLibrary S V} {engine : EngineRef} {n timeout : Nat} {s t : Session S}

theorem handler_eq (h : s.Watched n timeout) :
    (s.world.context n).handler = { from? := s.phase.deadline timeout } := by
  simp [ScriptContext.handler, h.isWatched, h.slot_eq]

theorem of_context {w : World S} {phase : Phase S} {ended : List (EndedCall S)} {state : S}
    (h : s.Watched n timeout) (hcontext : w.context n = { s.world.context n with state })
    (hdeadline : phase.deadline timeout = s.phase.deadline timeout)
    (hsince : phase.since? = s.phase.since?)
    (hfound : ∀ r, phase = .running r → state = r.found) : Watched n timeout ⟨w, phase, ended⟩ := by
  refine ⟨?_, ?_, ?_, ?_, fun r hr => ?_⟩
  all_goals simp only [hcontext]
  · exact h.timeout_eq
  · exact h.isWatched
  · exact h.slot_eq.trans hdeadline.symm
  · exact h.since_eq.trans hsince.symm
  · exact hfound r hr

/-- The call that runs comes to what it comes to when it is stopped on its own account. -/
theorem running_eq (lib : ScriptLibrary S V) (h : s.Watched engine.context timeout)
    {r : RunningCall S} (hr : s.phase = .running r) :
    lib.running engine r.call r.text s.world =
      lib.limited engine timeout r.call r.text r.since r.found := by
  have hsince : (s.world.context engine.context).since = some r.since := by
    rw [h.since_eq, hr]
    rfl
  rw [lib.running_of_since engine r.call r.text s.world hsince, h.handler_eq, h.found_eq r hr, hr]
  rfl

/-- The same holds of a call that is started now. -/
theorem called_eq (lib : ScriptLibrary S V) (h : s.Watched engine.context timeout)
    (call : EngineCall) (text : String) (now : Nat) :
    lib.called engine call text (s.world.context engine.context) now =
      lib.limited engine timeout call text now (s.world.context engine.context).state := by
  have hhandler : ((s.world.context engine.context).enter now).handler =
      { from? := some (now + timeout) } := by
    simp [ScriptContext.handler, ScriptContext.enter, CallDeadline.arm, h.isWatched, h.timeout_eq]
  rw [ScriptLibrary.called, hhandler, ScriptLibrary.limited]

end Session.Watched

/-! ## What happens in a context -/

namespace ScriptLibrary

variable (lib : ScriptLibrary S V)

theorem evaluate_world (n : Nat) (source : String) (w : World S) :
    (lib.evaluate n source w).world = (World.execute n (lib.eval source) w).world := by
  simp only [evaluate, Act.bind_apply]
  cases (World.execute n (lib.eval source) w).value <;> rfl

theorem intoEngine_world (n : Nat) (entryPoint : String) (w : World S) :
    (lib.intoEngine n entryPoint w).world =
      (World.execute n (lib.target entryPoint) w).world := by
  simp only [intoEngine, Act.bind_apply]
  cases (World.execute n (lib.target entryPoint) w).value with
  | none => rfl
  | some outcome => cases outcome <;> rfl

end ScriptLibrary

namespace Session

variable {lib : ScriptLibrary S V} {engine : EngineRef} {timeout : Nat} {s t : Session S}

/-- A context that has just been made, with a limit on its calls. -/
theorem watched_created (lib : ScriptLibrary S V) {limits : ScriptLimits}
    (hlimit : limits.callTime = some timeout) {w : World S} {n : Nat}
    (h : (lib.createContext limits w).value = .ok n) :
    Watched n timeout { world := (lib.createContext limits w).world } := by
  cases hmade : lib.boundedRuntime limits w.runtimes >>= lib.newContext with
  | error message =>
      simp only [ScriptLibrary.createContext, Act.bind_apply, Act.get_apply, hmade] at h
      cases h
  | ok state =>
      simp only [ScriptLibrary.createContext, Act.bind_apply, Act.get_apply, Act.pure_apply,
        hmade] at h
      obtain rfl := Except.ok.inj h
      have hcontext : (lib.createContext limits w).world.context w.contexts.length =
          { state, deadline := { timeout := some timeout }, isWatched := true } := by
        simp [ScriptLibrary.createContext, hmade, World.context, hlimit]
      refine ⟨?_, ?_, ?_, ?_, fun r hr => by cases hr⟩
      all_goals simp only [hcontext]
      all_goals rfl

theorem Watched.step (h : s.Watched engine.context timeout) (hstep : lib.Step engine s t) :
    t.Watched engine.context timeout := by
  cases hstep with
  | evaluate w source =>
      obtain ⟨state, hcontext⟩ := w.context_execute engine.context (lib.eval source)
      rw [← lib.evaluate_world] at hcontext
      exact h.of_context hcontext rfl rfl fun r hr => by cases hr
  | expose w _ =>
      obtain ⟨state, hcontext⟩ := w.context_execute engine.context (lib.target engine.entryPoint)
      rw [← lib.intoEngine_world] at hcontext
      exact h.of_context hcontext rfl rfl fun r hr => by cases hr
  | start w ended call text =>
      have hcontext : (lib.start engine call text w).world.context engine.context =
          (w.context engine.context).enter w.now := by
        rw [lib.start_eq, World.context_setContext]
      have htimeout := h.timeout_eq
      have harmed : (w.context engine.context).deadline.arm w.now =
          { (w.context engine.context).deadline with expiresAt := some (w.now + timeout) } := by
        simp only [CallDeadline.arm, htimeout]
      refine ⟨?_, ?_, ?_, ?_, fun r hr => ?_⟩
      all_goals simp only [hcontext, ScriptContext.enter, harmed]
      · exact htimeout
      · exact h.isWatched
      · rfl
      · rfl
      · cases hr
        rfl
  | finish w ended r c hruns _ =>
      have hcontext : (lib.finish engine r.call r.text w).world.context engine.context =
          (w.context engine.context).leave c.state := by
        rw [(lib.finish_of_running engine r.call r.text w hruns).2, World.context_setContext]
      refine ⟨?_, ?_, ?_, ?_, fun r hr => by cases hr⟩
      all_goals simp only [hcontext, ScriptContext.leave]
      · exact h.timeout_eq
      · exact h.isWatched
      · rfl
      · rfl
  | elsewhere w w' phase ended haside =>
      exact h.of_context haside.context_eq rfl rfl fun r hr => h.found_eq r hr

theorem Watched.reaches (h : s.Watched engine.context timeout) (hreaches : lib.Reaches engine s t) :
    t.Watched engine.context timeout := by
  induction hreaches with
  | refl => exact h
  | step _ hstep ih => exact ih.step hstep

/-- Every call that was ended since had come to what it comes to. -/
theorem made_since (h : s.Watched engine.context timeout) (hreaches : lib.Reaches engine s t) :
    EndedSince (lib.Made engine timeout) s.ended t.ended := by
  induction hreaches with
  | refl => exact .refl _ _
  | step hbefore hstep ih =>
      cases hstep with
      | evaluate w source => exact ih
      | expose w _ => exact ih
      | start w ended call text => exact ih
      | elsewhere w w' phase ended _ => exact ih
      | finish w ended r c hruns hends =>
          have hlimited := (h.reaches hbefore).running_eq lib rfl
          have hvalue := (lib.finish_of_running engine r.call r.text w hruns).1
          exact ih.snoc ⟨c, hlimited.symm.trans hruns, hvalue, hends⟩

end Session

/-! ## Functions without a state of their own -/

namespace ScriptLibrary

variable (lib : ScriptLibrary S V) (engine : EngineRef) (timeout : Nat)

/-- States of a context among which calls stay, whether they come to a value, fail or are stopped,
and which no call tells apart. -/
structure KeepsNoState (quiet : S → Prop) : Prop where
  stays : ∀ {found}, quiet found → ∀ {call text handler now c},
    lib.callMethod engine.entryPoint call text handler now found = some c → quiet c.state
  same : ∀ {found found'}, quiet found → quiet found' → ∀ call text handler now,
    (lib.callMethod engine.entryPoint call text handler now found).map Completion.outcome =
      (lib.callMethod engine.entryPoint call text handler now found').map Completion.outcome

end ScriptLibrary

namespace Session

variable {lib : ScriptLibrary S V} {engine : EngineRef} {timeout : Nat} {s t : Session S}

/-- The context is in one of the states, and so was every call since some moment. -/
structure Quiet (engine : EngineRef) (quiet : S → Prop) (before : List (EndedCall S))
    (s : Session S) : Prop where
  not_loading : s.phase ≠ .loading
  state : quiet (s.world.context engine.context).state
  found : EndedSince (fun e => quiet e.started.found) before s.ended

theorem Quiet.step {quiet : S → Prop} {before : List (EndedCall S)}
    (hkeeps : lib.KeepsNoState engine quiet) (hs : s.Watched engine.context timeout)
    (h : s.Quiet engine quiet before) (hstep : lib.Step engine s t) :
    t.Quiet engine quiet before := by
  cases hstep with
  | evaluate w source => exact absurd rfl h.not_loading
  | expose w _ => exact absurd rfl h.not_loading
  | start w ended call text =>
      refine ⟨by simp, ?_, h.found⟩
      rw [lib.start_eq, World.context_setContext]
      exact h.state
  | finish w ended r c hruns hends =>
      have hquiet : quiet r.found := hs.found_eq r rfl ▸ h.state
      have hlimited := hs.running_eq lib rfl
      refine ⟨by simp, ?_, h.found.snoc hquiet⟩
      rw [(lib.finish_of_running engine r.call r.text w hruns).2, World.context_setContext]
      exact hkeeps.stays hquiet (hlimited.symm.trans hruns)
  | elsewhere w w' phase ended haside =>
      refine ⟨h.not_loading, ?_, h.found⟩
      rw [haside.context_eq]
      exact h.state

theorem Quiet.reaches {quiet : S → Prop} {before : List (EndedCall S)}
    (hkeeps : lib.KeepsNoState engine quiet) (hs : s.Watched engine.context timeout)
    (h : s.Quiet engine quiet before) (hreaches : lib.Reaches engine s t) :
    t.Quiet engine quiet before := by
  induction hreaches with
  | refl => exact h
  | step hbefore hstep ih => exact ih.step hkeeps (hs.reaches hbefore) hstep

end Session

/-! ## Every moment of the use of an engine -/

section Spec

variable (lib : ScriptLibrary S V) (engine : EngineRef) (timeout : Nat)

/-- What has become of a call that was ended. -/
structure EndedCall.Spec (e : EndedCall S) : Prop where
  /-- Without a limit the call would have come to the same, or it failed when its own time was
  up. -/
  undisturbed_or_late :
    (∃ c, lib.callMethod engine.entryPoint e.started.call e.started.text .never e.started.since
        e.started.found = some c ∧ e.outcome = .returned (e.started.call.answer c.outcome)) ∨
      (∃ message, e.outcome = .returned (.error (.engine message))) ∧
        e.started.since + timeout ≤ e.endedAt
  /-- A call that would run forever fails. -/
  forever :
    lib.callMethod engine.entryPoint e.started.call e.started.text .never e.started.since
      e.started.found = none →
    ∃ message, e.outcome = .returned (.error (.engine message))

/-- What holds of an engine at a moment of its use, with a limit on the time of its calls. -/
structure LimitSpec (s : Session S) : Prop where
  /-- The slot is filled while a call runs, with the end of its own time, and at no other moment. -/
  slot_eq : (s.world.context engine.context).deadline.expiresAt = s.phase.deadline timeout
  /-- Only the call that runs can be stopped, and not before its own time is up. Nothing stops a
  payload. -/
  stops_iff : ∀ moment, (s.world.context engine.context).handler.stops moment = true ↔
    ∃ r, s.phase = .running r ∧ r.since + timeout ≤ moment
  ended : ∀ e ∈ s.ended, EndedCall.Spec lib engine timeout e
  /-- A call that runs comes to an end, to which it can be brought when its time has passed. -/
  ends : ∀ r, s.phase = .running r → ∃ duration, ∀ w, s.world.Aside engine.context w →
    r.since + duration ≤ w.now →
    ∃ t, lib.Step engine { s with world := w } t ∧ t.phase = .idle
  /-- A whole call comes to an answer, and to a failure if it would run forever. -/
  invoked : s.phase = .idle → ∀ call text, ∃ answer,
    (lib.invoke engine call text s.world).value = some (.returned answer) ∧
      (lib.callMethod engine.entryPoint call text .never s.world.now
          (s.world.context engine.context).state = none →
        ∃ message, answer = .error (.engine message))
  /-- Where functions keep no state, a call that is made later comes to what it would come to if
  none of the calls before had been made, so it comes to the same whichever of them were made. -/
  forgotten : s.phase = .idle → ∀ quiet, lib.KeepsNoState engine quiet →
    quiet (s.world.context engine.context).state → ∀ t, lib.Reaches engine s t →
    ∃ later, t.ended = s.ended ++ later ∧ ∀ e ∈ later,
      (lib.invoke engine e.started.call e.started.text
        { s.world with now := e.started.since }).value = some e.outcome

variable {lib engine timeout}

omit [Inhabited S] in
/-- A call with a limit comes to an end, and fails when it would run forever. -/
theorem ScriptLibrary.Interruptible.limited (h : lib.Interruptible) (engine : EngineRef)
    (timeout : Nat) (call : EngineCall) (text : String) (since : Nat) (found : S) :
    ∃ c, lib.limited engine timeout call text since found = some c ∧
      (lib.callMethod engine.entryPoint call text .never since found = some c ∨
        (∃ message, c.outcome = .error message) ∧ since + timeout ≤ since + c.took) := by
  have hcall := h.callMethod engine.entryPoint call text
  cases hlimited : lib.limited engine timeout call text since found with
  | none =>
      have hnever := (hcall.endless hlimited).2 (since + timeout)
      simp [InterruptHandler.stops] at hnever
  | some c =>
      refine ⟨c, rfl, ?_⟩
      rcases hcall.ends hlimited with hsame | ⟨herror, hstops⟩
      · exact .inl hsame
      · refine .inr ⟨herror, ?_⟩
        simpa [InterruptHandler.stops] using hstops

omit [Inhabited S] in
theorem EndedCall.spec_of_made (hlib : lib.Interruptible) {e : EndedCall S}
    (h : lib.Made engine timeout e) : EndedCall.Spec lib engine timeout e := by
  obtain ⟨c, hlimited, houtcome, hends⟩ := h
  obtain ⟨c', hlimited', hended⟩ := hlib.limited engine timeout
    e.started.call e.started.text e.started.since e.started.found
  obtain rfl := Option.some.inj (hlimited.symm.trans hlimited')
  rcases hended with hsame | ⟨⟨message, herror⟩, hlate⟩
  · refine ⟨.inl ⟨c, hsame, houtcome⟩, fun hforever => ?_⟩
    cases hforever.symm.trans hsame
  · rw [herror] at houtcome
    exact ⟨.inr ⟨⟨message, houtcome⟩, Nat.le_trans hlate hends⟩, fun _ => ⟨message, houtcome⟩⟩

namespace Session.Watched

variable {s : Session S}

theorem stops_iff (h : s.Watched engine.context timeout) (moment : Nat) :
    (s.world.context engine.context).handler.stops moment = true ↔
      ∃ r, s.phase = .running r ∧ r.since + timeout ≤ moment := by
  rw [h.handler_eq, InterruptHandler.stops]
  cases s.phase with
  | loading => simp [Phase.deadline]
  | idle => simp [Phase.deadline]
  | running r => simp [Phase.deadline]

theorem ends (hlib : lib.Interruptible) (h : s.Watched engine.context timeout)
    {r : RunningCall S} (hr : s.phase = .running r) :
    ∃ duration, ∀ w, s.world.Aside engine.context w → r.since + duration ≤ w.now →
      ∃ t, lib.Step engine { s with world := w } t ∧ t.phase = .idle := by
  obtain ⟨c, hlimited, -⟩ := hlib.limited engine timeout r.call r.text
    r.since r.found
  refine ⟨c.took, fun w haside hends => ?_⟩
  have hw : Watched engine.context timeout { s with world := w } :=
    h.of_context haside.context_eq rfl rfl fun r hr => h.found_eq r hr
  have hruns := (hw.running_eq lib hr).trans hlimited
  obtain ⟨world, phase, ended⟩ := s
  subst hr
  exact ⟨_, .finish w ended r c hruns hends, rfl⟩

theorem invoked (hlib : lib.Interruptible) (h : s.Watched engine.context timeout)
    (call : EngineCall) (text : String) :
    ∃ answer, (lib.invoke engine call text s.world).value = some (.returned answer) ∧
      (lib.callMethod engine.entryPoint call text .never s.world.now
          (s.world.context engine.context).state = none →
        ∃ message, answer = .error (.engine message)) := by
  obtain ⟨c, hlimited, hended⟩ := hlib.limited engine timeout call text
    s.world.now (s.world.context engine.context).state
  refine ⟨call.answer c.outcome, ?_, fun hforever => ?_⟩
  · rw [lib.invoke_value, h.called_eq lib, hlimited]
    rfl
  · rcases hended with hsame | ⟨⟨message, herror⟩, -⟩
    · cases hforever.symm.trans hsame
    · exact ⟨message, by rw [herror]; rfl⟩

theorem forgotten (h : s.Watched engine.context timeout) (hidle : s.phase = .idle)
    {quiet : S → Prop} (hkeeps : lib.KeepsNoState engine quiet)
    (hquiet : quiet (s.world.context engine.context).state) {t : Session S}
    (hreaches : lib.Reaches engine s t) :
    ∃ later, t.ended = s.ended ++ later ∧ ∀ e ∈ later,
      (lib.invoke engine e.started.call e.started.text
        { s.world with now := e.started.since }).value = some e.outcome := by
  have hstart : s.Quiet engine quiet s.ended :=
    ⟨by simp [hidle], hquiet, .refl _ _⟩
  obtain ⟨later, hended, hfound⟩ := (hstart.reaches hkeeps h hreaches).found
  obtain ⟨later', hended', hmade⟩ := made_since h hreaches
  obtain rfl := List.append_cancel_left (hended.symm.trans hended')
  refine ⟨later, hended, fun e he => ?_⟩
  obtain ⟨c, hlimited, houtcome, -⟩ := hmade e he
  -- The call found a state that no call tells from the one before all of them.
  have hsame := hkeeps.same (hfound e he) hquiet e.started.call e.started.text
    { from? := some (e.started.since + timeout) } e.started.since
  have hlimited' : (lib.limited engine timeout e.started.call e.started.text e.started.since
      (s.world.context engine.context).state).map Completion.outcome = some c.outcome := by
    rw [ScriptLibrary.limited, ← hsame]
    exact congrArg (Option.map Completion.outcome) hlimited
  obtain ⟨c', hc', houtcome'⟩ := Option.map_eq_some_iff.mp hlimited'
  have hcalled := h.called_eq lib e.started.call e.started.text e.started.since
  rw [lib.invoke_value, houtcome, ← houtcome']
  exact congrArg (Option.map _) (hcalled.trans hc')

end Session.Watched

/-- At every moment from the making of its context on, an engine interrupts its calls when their
time is up, each of them for itself alone. -/
theorem limit_spec (hlib : lib.Interruptible) {limits : ScriptLimits}
    (hlimit : limits.callTime = some timeout) {w : World S}
    (hmade : (lib.createContext limits w).value = .ok engine.context) {s : Session S}
    (h : lib.Reaches engine { world := (lib.createContext limits w).world } s) :
    LimitSpec lib engine timeout s := by
  have hcreated := Session.watched_created lib hlimit hmade
  have hs := hcreated.reaches h
  obtain ⟨later, hended, hcalls⟩ := Session.made_since hcreated h
  exact
    { slot_eq := hs.slot_eq
      stops_iff := hs.stops_iff
      ended := fun e he => by
        rw [hended] at he
        exact EndedCall.spec_of_made hlib (hcalls e he)
      ends := fun _ hr => hs.ends hlib hr
      invoked := fun _ => hs.invoked hlib
      forgotten := fun hidle _ hkeeps hquiet _ hreaches =>
        hs.forgotten hidle hkeeps hquiet hreaches }

end Spec

/-! ## A function that runs forever -/

namespace Script

/-- A payload with a function that runs forever on one text. -/
def hangingPayload : String :=
  "\x7b\"highlightAuto\":\x7b\"cases\":[" ++
    "\x7b\"text\":\"hang\",\"do\":\"hang\"\x7d,\x7b\"do\":\"wrap\"\x7d]\x7d\x7d"

/-- The cases of its function. -/
def hangingCases : List Case :=
  [{ text := some "hang", action := .hang }, { action := .wrap }]

/-- The realm in which it has been run. -/
def hangingRealm : Realm where
  globals := standardGlobals ++
    [⟨"hljs", .engine { members := [("highlightAuto", .cases hangingCases)] }, false, true⟩]

theorem keepsState_hangingCases (text : String) {handler : InterruptHandler} {now : Nat}
    {r : Realm} {c : Completion Realm Item}
    (h : (Item.method "hljs" hangingCases).call text none handler now r = some c) :
    c.state = r := by
  simp only [Item.call, hangingCases, List.find?] at h
  cases hhang : Realm.caseHolds none text { text := some "hang", action := .hang } with
  | true =>
      simp only [hhang, Item.act, Realm.perform] at h
      obtain ⟨moment, -, rfl⟩ := Option.map_eq_some_iff.mp h
      rfl
  | false =>
      have hwrap : Realm.caseHolds none text { action := .wrap } = true := rfl
      simp only [hhang, hwrap, Item.act, Realm.perform] at h
      obtain rfl := Option.some.inj h
      rfl

theorem callFunction_hangingRealm (call : EngineCall) (text : String) {handler : InterruptHandler}
    {now : Nat} {c : Completion Realm Item}
    (h : library.callFunction "hljs" call text handler now hangingRealm = some c) :
    c.state = hangingRealm := by
  have htarget : library.target "hljs" handler now hangingRealm =
      some ⟨.ok (.engine "hljs"), hangingRealm, 0⟩ := rfl
  obtain ⟨found, hfound, hstate⟩ := Execution.exists_rest_of_ok htarget h
  rw [hstate]
  cases call with
  | auto =>
      have hmember : library.field (.engine "hljs") "highlightAuto" handler (now + 0)
          hangingRealm = some ⟨.ok (.method "hljs" hangingCases), hangingRealm, 0⟩ := rfl
      obtain ⟨read, hread, hstate⟩ := Execution.exists_rest_of_ok hmember hfound
      rw [hstate]
      obtain ⟨called, hcalled, hstate⟩ := Execution.exists_rest_of_ok rfl hread
      rw [hstate]
      exact keepsState_hangingCases text hcalled
  | grammar name ignoreIllegals =>
      have hmember : library.field (.engine "hljs") "highlight" handler (now + 0)
          hangingRealm = some ⟨.ok (.value .undefined), hangingRealm, 0⟩ := rfl
      obtain ⟨read, hread, hstate⟩ := Execution.exists_rest_of_ok hmember hfound
      rw [hstate]
      obtain rfl := Option.some.inj hread
      rfl

/-- Its function keeps no state. -/
theorem keepsNoState_hangingRealm :
    library.KeepsNoState ⟨0, "hljs"⟩ fun r => r = hangingRealm where
  stays := by
    rintro found rfl call text handler now c h
    rcases Execution.bind_eq_some h with
      ⟨message, t, took, hcall, rfl⟩ | ⟨i, t, took, rest, hcall, hrest, rfl⟩
    · exact callFunction_hangingRealm call text hcall
    · have hresult := library_keepsState.resultText Execution.compositional_keepsState i
      have hstate : rest.state = t := hresult.state_eq hrest
      exact hstate.trans (callFunction_hangingRealm call text hcall)
  same := by
    rintro found found' rfl rfl call text handler now
    rfl

/-- A world with a context in which it has been run, and perhaps a call of it. -/
def hangingWorld (since : Option Nat) (now : Nat) : World where
  runtimes := 1
  contexts := [
    { state := hangingRealm
      deadline := { timeout := some 60, expiresAt := since.map (· + 60) }
      isWatched := true
      since }]
  now

end Script

open Script in
/-- An engine whose first call runs forever and is interrupted. -/
theorem limit_spec_hang :
    let limits : ScriptLimits := { callTime := some 60 }
    let engine : EngineRef := ⟨0, "hljs"⟩
    ∃ s, library.Reaches engine { world := (library.createContext limits {}).world } s ∧
      s.phase = .idle ∧ LimitSpec library engine 60 s ∧
      s.ended = [⟨⟨.auto, "hang", 0, hangingRealm⟩, 60,
        .returned (.error (.engine "Error: interrupted"))⟩] ∧
      library.KeepsNoState engine (fun r => r = hangingRealm) ∧
      (s.world.context engine.context).state = hangingRealm := by
  intro limits engine
  have hevaluated : library.Step engine { world := (library.createContext limits {}).world }
      { world := hangingWorld none 0 } :=
    .evaluate _ hangingPayload
  have hexposed : library.Step engine { world := hangingWorld none 0 }
      ⟨hangingWorld none 0, .idle, []⟩ :=
    .expose _ rfl
  have hstarted : library.Step engine ⟨hangingWorld none 0, .idle, []⟩
      ⟨hangingWorld (some 0) 0, .running ⟨.auto, "hang", 0, hangingRealm⟩, []⟩ :=
    .start _ _ _ _
  have hwaited : library.Step engine
      ⟨hangingWorld (some 0) 0, .running ⟨.auto, "hang", 0, hangingRealm⟩, []⟩
      ⟨hangingWorld (some 0) 60, .running ⟨.auto, "hang", 0, hangingRealm⟩, []⟩ :=
    .elsewhere _ _ _ _ ⟨rfl, by decide⟩
  have hfinished : library.Step engine
      ⟨hangingWorld (some 0) 60, .running ⟨.auto, "hang", 0, hangingRealm⟩, []⟩
      ⟨hangingWorld none 60, .idle, [⟨⟨.auto, "hang", 0, hangingRealm⟩, 60,
        .returned (.error (.engine "Error: interrupted"))⟩]⟩ :=
    .finish _ _ _ ⟨.error "Error: interrupted", hangingRealm, 60⟩ rfl (by decide)
  have hreaches := ((((ScriptLibrary.Reaches.refl.step hevaluated).step hexposed).step
    hstarted).step hwaited).step hfinished
  exact ⟨_, hreaches, rfl, limit_spec library_interruptible rfl rfl hreaches, rfl,
    keepsNoState_hangingRealm, rfl⟩

end LineHighlight
