import LineHighlight.Proofs.Language.Names
import LineHighlight.Proofs.Service.Panics
import LineHighlight.Proofs.Service.Params

/-! The engine calls of a request by the fields of its parameters.
A language in the fields, the flag and the line make up the whole call. Which lines are run is
up to the engine and the time; the calls that are recorded are those for the lines that were. -/

namespace LineHighlight

/-! ## The call for a line -/

namespace HighlightParams

/-- The call for a line by the fields of the parameters. -/
def callFor (fields : List (String × Json)) (line : String) : RecordedCall :=
  match Json.lookup "language" fields with
  | some (.string s) =>
    .grammar line (.object (("language", .string (Language.canonical s)) ::
      match Json.lookup "ignore_illegals" fields with
      | some (.boolean true) => [("ignoreIllegals", .boolean true)]
      | _ => []))
  | _ => .auto line

theorem HeldBy.callOn_eq {p : HighlightParams} {fields : List (String × Json)}
    (h : p.HeldBy fields) : p.mode.callOn = callFor fields := by
  funext line
  obtain ⟨-, hlanguage, hflag⟩ := h
  cases hname : p.language with
  | none =>
      rw [hname] at hlanguage
      rcases hlanguage with hnone | hnull
      · simp [mode, hname, Mode.ofRequest, Mode.callOn, Mode.engineCall, RecordedCall.ofCall,
          callFor, hnone]
      · simp [mode, hname, Mode.ofRequest, Mode.callOn, Mode.engineCall, RecordedCall.ofCall,
          callFor, hnull]
  | some s =>
      rw [hname] at hlanguage
      simp only [mode, hname, Mode.callOn, Mode.engineCall_ofRequest, RecordedCall.ofCall,
        grammarOptions, callFor, hlanguage]
      rcases hflag with hflag | ⟨hnone, hfalse⟩
      · rw [hflag]
        cases p.ignoreIllegals <;> rfl
      · rw [hnone, hfalse]
        rfl

end HighlightParams

/-! ## Lines -/

namespace World

variable {respond : Responder} {read : Reading} {settings : EngineSettings}
  {σ τ : System World EngineRef} {mode : Mode} {line : String} {lines : List String}

theorem acquire_recording (respond : Responder) (read : Reading) (settings : EngineSettings)
    (σ : System World EngineRef) :
    ((answering respond read settings).loader.acquire σ).world.world.scripted.recording =
      σ.world.scripted.recording := by
  cases hslot : σ.loader.slot with
  | ready handle => rw [Loader.acquire_ready _ hslot]
  | failed reason => rw [Loader.acquire_failed _ hslot]
  | empty =>
      rw [Loader.acquire_empty _ hslot, Loader.attempt_world]
      rcases setUp_world respond read settings σ.world with h | ⟨sources, h⟩
      · rw [h]; rfl
      · rw [h]; rfl

/-- A line with an engine that comes to an answer leaves its call and the engine. -/
theorem run_loaded {handle : EngineHandle EngineRef} {outcome : Except Error EngineResult}
    (hacquire : ((answering respond read settings).loader.acquire σ).value = .ok handle)
    (hdone : ((answering respond read settings).run none mode line σ).value = .done outcome)
    (hrecording : σ.world.scripted.recording = true) :
    ((answering respond read settings).run none mode line σ).world.world.scripted.calls =
        σ.world.scripted.calls ++ [mode.callOn line] ∧
      ((answering respond read settings).run none mode line σ).world.world.scripted.recording =
        true ∧
      ((answering respond read settings).run none mode line σ).world.loader.slot =
        .ready handle := by
  cases hanswer : (respond ((answering respond read settings).loader.acquire
      σ).world.world.scripted.asked (mode.callOn line)).outcome with
  | panicked reason =>
      have hpanic := (run_panicked mode line hacquire rfl hanswer).1
      cases hdone.symm.trans hpanic
  | returned answer =>
      rw [(run_returned mode line hacquire rfl hanswer).2]
      have hrecording' := (acquire_recording respond read settings σ).trans hrecording
      refine ⟨?_, hrecording', Loader.acquire_slot _ hacquire⟩
      simp only [withCall, afterCall, (acquire_asked respond read settings σ).2, hrecording',
        if_true]

/-- A limit makes a line wait or makes no difference to it. -/
theorem run_limited (respond : Responder) (read : Reading) (settings : EngineSettings)
    (limit : Option Nat) (mode : Mode) (line : String) (σ : System World EngineRef) :
    (answering respond read settings).run limit mode line σ =
        (answering respond read settings).run none mode line σ ∨
      (∃ handle wake, ((answering respond read settings).run limit mode line σ).value =
        .waiting handle wake) ∧
      ((answering respond read settings).run limit mode line σ).world.world =
        ((answering respond read settings).loader.acquire σ).world.world := by
  cases limit with
  | none => exact .inl rfl
  | some limit =>
      cases hacquire : ((answering respond read settings).loader.acquire σ).value with
      | error e =>
          refine .inl (Segments.run_punctual rfl fun handle wake hwaiting => ?_)
          cases hwaiting.symm.trans (Segments.run_unavailable _ _ mode line hacquire).1
      | ok handle =>
          obtain ⟨υ, hυ⟩ : ∃ υ, ((answering respond read settings).loader.acquire σ).world = υ :=
            ⟨_, rfl⟩
          have hstart : System.inWorld ((answering respond read settings).loader.runtime.start
                handle.engine mode.engineCall line) υ =
              ⟨some (respond υ.world.scripted.asked (mode.callOn line)).delay, υ, []⟩ := rfl
          have hread : System.inWorld (answering respond read settings).clock.read υ =
              ⟨υ.world.now, υ, []⟩ := rfl
          simp only [Segments.run_of_acquire hacquire, hυ]
          by_cases hends : υ.world.now +
              (respond υ.world.scripted.asked (mode.callOn line)).delay < limit
          · left
            simp [Segments.call, hstart, hread, hends]
          · right
            simp [Segments.call, hstart, hread, hends, System.withEngineLock]

/-- The end of a call that was started, now or while something else was waited for. -/
theorem finish_loaded {handle : EngineHandle EngineRef} {outcome : Except Error EngineResult}
    (hdone : ((answering respond read settings).finish mode line handle σ).value = .done outcome)
    (hrecording : σ.world.scripted.recording = true) :
    ((answering respond read settings).finish mode line handle σ).world.world.scripted.calls =
      σ.world.scripted.calls ++ [mode.callOn line] := by
  cases hanswer : (respond σ.world.scripted.asked
      (.ofCall line mode.engineCall)).outcome with
  | panicked reason =>
      simp [Segments.finish, answering, respondingRuntime, Runtime.on, Scripted.runtime,
        Scripted.finish, System.inWorld, Act.on, hanswer] at hdone
  | returned answer =>
      simp [Segments.finish, answering, respondingRuntime, Runtime.on, Scripted.runtime,
        Scripted.finish, Scripted.record, System.inWorld, Act.on, hanswer, hrecording, Mode.callOn]

/-! ## Requests -/

section Requests

/-- Some of the calls have been recorded, in their order, behind the calls before. -/
def Called (calls : List RecordedCall) (σ τ : System World EngineRef) : Prop :=
  ∃ block, τ.world.scripted.calls = σ.world.scripted.calls ++ block ∧ block.Sublist calls

theorem Called.of_eq {calls : List RecordedCall}
    (h : τ.world.scripted.calls = σ.world.scripted.calls) : Called calls σ τ :=
  ⟨[], by rw [h, List.append_nil], List.nil_sublist _⟩

theorem Called.trans {υ : System World EngineRef} {calls calls' : List RecordedCall}
    (h : Called calls σ τ) (h' : Called calls' τ υ) : Called (calls ++ calls') σ υ := by
  obtain ⟨block, hblock, hsub⟩ := h
  obtain ⟨others, hothers, hsub'⟩ := h'
  exact ⟨block ++ others, by rw [hothers, hblock, List.append_assoc], hsub.append hsub'⟩

theorem Called.mono {calls calls' : List RecordedCall} (h : Called calls σ τ)
    (hsub : calls.Sublist calls') : Called calls' σ τ := by
  obtain ⟨block, hblock, hcalls⟩ := h
  exact ⟨block, hblock, hcalls.trans hsub⟩

variable (respond : Responder) (read : Reading) (settings : EngineSettings)

theorem run_called (limit : Option Nat) (mode : Mode) (line : String)
    (σ : System World EngineRef) :
    Called [mode.callOn line] σ
      ((answering respond read settings).run limit mode line σ).world := by
  rcases run_limited respond read settings limit mode line σ with hsame | ⟨-, hworld⟩
  · rw [hsame]
    by_cases hdone : ∃ outcome,
        ((answering respond read settings).run none mode line σ).value = .done outcome
    · obtain ⟨outcome, hdone⟩ := hdone
      exact run_calls hdone
    · obtain ⟨handle, reason, -, -, -, hworld⟩ := run_stops (not_exists.mp hdone)
      refine .of_eq ?_
      rw [hworld, afterPanic_calls, (acquire_asked respond read settings σ).2]
  · refine .of_eq ?_
    rw [hworld]
    exact (acquire_asked respond read settings σ).2

theorem finish_called (mode : Mode) (line : String) (handle : EngineHandle EngineRef)
    (σ : System World EngineRef) :
    Called [mode.callOn line] σ
      ((answering respond read settings).finish mode line handle σ).world := by
  cases hanswer : (respond σ.world.scripted.asked
      (.ofCall line mode.engineCall)).outcome with
  | panicked reason =>
      apply Called.of_eq
      simp [Segments.finish, answering, respondingRuntime, Runtime.on, Scripted.runtime,
        Scripted.finish, System.inWorld, Act.on, hanswer]
  | returned answer =>
      simp only [Segments.finish, answering, respondingRuntime, Runtime.on, Scripted.runtime,
        Scripted.finish, Scripted.record, System.inWorld, Act.on, hanswer, Act.bind_apply,
        Act.get_apply, Act.modify_apply, Act.pure_apply, Segments.settle_world, Called]
      split
      · exact ⟨[mode.callOn line], rfl, .refl _⟩
      · exact ⟨[], (List.append_nil _).symm, List.nil_sublist _⟩

theorem isLate_world (deadline : Option Nat) (σ : System World EngineRef) :
    ((answering respond read settings).isLate deadline σ).world = σ := by
  cases deadline with
  | none => rfl
  | some deadline => rw [Segments.isLate_now rfl]

theorem runLines_called (limit deadline : Option Nat) (mode : Mode) (lines : List String)
    (p : Progress) (σ : System World EngineRef) :
    Called (lines.map mode.callOn) σ
      ((answering respond read settings).runLines limit deadline mode lines p σ).world := by
  induction lines generalizing p σ with
  | nil => exact .of_eq rfl
  | cons line lines ih =>
      have hsame := isLate_world respond read settings deadline σ
      simp only [Segments.runLines, Act.bind_apply, hsame]
      split
      · exact (ih (p.skip line) σ).mono (List.sublist_cons_self _ _)
      · have hline := run_called respond read settings limit mode line σ
        simp only [Act.bind_apply]
        cases ((answering respond read settings).run limit mode line σ).value with
        | done outcome => exact hline.trans (ih (p.record line outcome) _)
        | panicked reason => exact hline.mono (by simp)
        | waiting handle wake => exact hline.mono (by simp)

theorem request_called (limit deadline : Option Nat) (text : String) (mode : Mode)
    (σ : System World EngineRef) :
    Called ((Text.lines text).map mode.callOn) σ
      ((answering respond read settings).request limit deadline text mode σ).world := by
  simp only [Segments.request, Act.bind_apply, Act.write, Segments.conclude_world]
  exact runLines_called respond read settings limit deadline mode (Text.lines text) {} σ

/-- What is left of a request whose call was waited for. -/
theorem resume_called (deadline : Option Nat) (mode : Mode) (before : Progress) (line : String)
    (rest : List String) (handle : EngineHandle EngineRef) (σ : System World EngineRef) :
    Called ((line :: rest).map mode.callOn) σ
      ((answering respond read settings).resume deadline mode before line rest handle
        σ).world := by
  obtain ⟨τ, hτ⟩ : ∃ τ, (System.modifyLoader (W := World) (E := EngineRef)
      (fun l => { l with engineLock := l.engineLock.release }) σ).world = τ := ⟨_, rfl⟩
  have hστ : τ.world = σ.world := by rw [← hτ]; rfl
  have hline : Called [mode.callOn line] σ
      (System.withEngine LineRun.hold ((answering respond read settings).finish mode line handle)
        τ).world := by
    rw [((answering respond read settings).isOuter_finish mode line handle).withEngine, Called,
      ← hστ]
    exact finish_called respond read settings mode line handle τ
  simp only [Segments.resume, Act.bind_apply, hτ]
  cases (System.withEngine LineRun.hold
      ((answering respond read settings).finish mode line handle) τ).value with
  | done outcome =>
      simp only [Act.bind_apply, Segments.conclude_world]
      exact hline.trans (runLines_called respond read settings none deadline mode rest _ _)
  | panicked reason => exact hline.mono (by simp)
  | waiting handle wake => exact hline.mono (by simp)

end Requests

theorem inTurn_loaded {outcomes : List (Except Error EngineResult)} {logs : List LogEntry}
    (h : (answering respond read settings).InTurn mode σ lines outcomes τ logs)
    {handle : EngineHandle EngineRef}
    (hacquire : ((answering respond read settings).loader.acquire σ).value = .ok handle)
    (hrecording : σ.world.scripted.recording = true) :
    τ.world.scripted.calls = σ.world.scripted.calls ++ lines.map mode.callOn := by
  induction h with
  | nil σ => simp
  | cons hline _ ih =>
      obtain ⟨hcalls, hrecording', hslot⟩ := run_loaded hacquire hline hrecording
      have hready := Loader.acquire_ready (answering respond read settings).loader hslot
      rw [ih (by rw [hready]) hrecording', hcalls, List.append_assoc]
      rfl

/-- With an engine at hand every line of a request that is finished has its call. -/
theorem highlight_calls {text : String} {handle : EngineHandle EngineRef}
    {result : HighlightResult}
    (hacquire : ((answering respond read settings).loader.acquire σ).value = .ok handle)
    (hrecording : σ.world.scripted.recording = true)
    (hfinished : ((answering respond read settings).highlight text mode σ).value =
      .finished result) :
    ((answering respond read settings).highlight text mode σ).world.world.scripted.calls =
      σ.world.scripted.calls ++ (Text.lines text).map mode.callOn := by
  rcases Segments.inTurn_or_stops (answering respond read settings) mode (Text.lines text) σ with
    ⟨outcomes, τ, logs, hturns⟩ | ⟨first, line, rest, outcomes, υ, logs, htext, hfirst, hstop⟩
  · rw [hturns.highlight_world]
    exact inTurn_loaded hturns hacquire hrecording
  · obtain ⟨_, reason, -, hpanic, -, -⟩ := run_stops hstop
    cases hfinished.symm.trans (hfirst.highlight_panicked hpanic htext).1

/-- A request all of whose calls are answered is finished. -/
theorem highlight_finished (read : Reading) (settings : EngineSettings)
    (σ : System World EngineRef) {text : String}
    (hanswers : ∀ asked, ∀ line ∈ Text.lines text, ∃ answer,
      (respond asked (mode.callOn line)).outcome = .returned answer) :
    ∃ result, ((answering respond read settings).highlight text mode σ).value =
      .finished result := by
  rcases Segments.inTurn_or_stops (answering respond read settings) mode (Text.lines text) σ with
    ⟨outcomes, τ, logs, hturns⟩ | ⟨first, line, rest, outcomes, υ, logs, htext, hfirst, hstop⟩
  · exact ⟨_, hturns.highlight_value⟩
  · obtain ⟨_, reason, -, -, hpanic, -⟩ := run_stops hstop
    obtain ⟨answer, hanswer⟩ := hanswers υ.world.scripted.asked line (by simp [htext])
    cases hpanic.symm.trans hanswer

end World

namespace HighlightParams

/-- What the fields of an object say about the calls of the request that it holds. -/
structure CallsSpec (fields : List (String × Json)) (p : HighlightParams) : Prop where
  heldBy : p.HeldBy fields
  /-- A line that finds an engine and comes to an answer. -/
  line : ∀ respond read settings limit line handle outcome σ,
    ((World.answering respond read settings).loader.acquire σ).value = .ok handle →
    ((World.answering respond read settings).run limit p.mode line σ).value = .done outcome →
    σ.world.scripted.recording = true →
    ((World.answering respond read settings).run limit p.mode line σ).world.world.scripted.calls =
      σ.world.scripted.calls ++ [callFor fields line]
  /-- A line that finds an engine and whose call is answered. -/
  answered : ∀ respond read settings line handle answer σ,
    ((World.answering respond read settings).loader.acquire σ).value = .ok handle →
    (respond σ.world.scripted.asked (callFor fields line)).outcome = .returned answer →
    σ.world.scripted.recording = true →
    ((World.answering respond read settings).run none p.mode line σ).value =
        .done (answer.bind EngineResult.ofAnswer) ∧
      ((World.answering respond read settings).run none p.mode line
          σ).world.world.scripted.calls =
        σ.world.scripted.calls ++ [callFor fields line]
  /-- A line that comes to an answer after a wait. -/
  awaited : ∀ respond read settings line handle outcome σ,
    ((World.answering respond read settings).finish p.mode line handle σ).value = .done outcome →
    σ.world.scripted.recording = true →
    ((World.answering respond read settings).finish p.mode line handle
        σ).world.world.scripted.calls =
      σ.world.scripted.calls ++ [callFor fields line]
  /-- A request, whatever becomes of its lines. -/
  request : ∀ respond read settings limit deadline σ,
    World.Called ((Text.lines p.text).map (callFor fields)) σ
      ((World.answering respond read settings).request limit deadline p.text p.mode σ).world
  resumed : ∀ respond read settings deadline before line rest handle σ,
    World.Called ((line :: rest).map (callFor fields)) σ
      ((World.answering respond read settings).resume deadline p.mode before line rest handle
        σ).world
  /-- A request that finds an engine and is finished. -/
  whole : ∀ respond read settings handle result σ,
    ((World.answering respond read settings).loader.acquire σ).value = .ok handle →
    ((World.answering respond read settings).highlight p.text p.mode σ).value = .finished result →
    σ.world.scripted.recording = true →
    ((World.answering respond read settings).highlight p.text p.mode
        σ).world.world.scripted.calls =
      σ.world.scripted.calls ++ (Text.lines p.text).map (callFor fields)
  /-- A request that finds an engine and whose calls are answered. -/
  all_answered : ∀ respond read settings handle σ,
    ((World.answering respond read settings).loader.acquire σ).value = .ok handle →
    (∀ asked, ∀ line ∈ Text.lines p.text, ∃ answer,
      (respond asked (callFor fields line)).outcome = .returned answer) →
    σ.world.scripted.recording = true →
    ∃ result,
      ((World.answering respond read settings).highlight p.text p.mode σ).value =
          .finished result ∧
        ((World.answering respond read settings).highlight p.text p.mode
            σ).world.world.scripted.calls =
          σ.world.scripted.calls ++ (Text.lines p.text).map (callFor fields)
  canonical_idem : ∀ s, Language.canonical (Language.canonical s) = Language.canonical s
  /-- Another spelling of the language is the same request. -/
  spelled : ∀ (l : Language) (s s' : String) (fields' : List (String × Json))
    (p' : HighlightParams), Text.Spells l.grammar s → Text.Spells l.grammar s' →
    Json.lookup "language" fields = some (.string s) →
    Json.lookup "language" fields' = some (.string s') →
    ofJson (.object fields') = .ok p' → p'.text = p.text → p'.ignoreIllegals = p.ignoreIllegals →
    callFor fields' = callFor fields ∧
      ∀ {W C E : Type} (segments : Segments W C E) limit deadline,
        segments.request limit deadline p'.text p'.mode =
          segments.request limit deadline p.text p.mode

theorem calls_spec {fields : List (String × Json)} {p : HighlightParams}
    (h : ofJson (.object fields) = .ok p) : CallsSpec fields p := by
  have hheld := (ofJson_object_eq_ok_iff.mp h).2
  have hcall := hheld.callOn_eq
  refine ⟨hheld, ?_, ?_, ?_, ?_, ?_, ?_, ?_, Language.canonical_canonical, ?_⟩
  · intro respond read settings limit line handle outcome σ hacquire hdone hrecording
    rcases World.run_limited respond read settings limit p.mode line σ with
      hsame | ⟨⟨_, _, hwaiting⟩, -⟩
    · rw [hsame] at hdone ⊢
      rw [← hcall]
      exact (World.run_loaded hacquire hdone hrecording).1
    · cases hdone.symm.trans hwaiting
  · intro respond read settings line handle answer σ hacquire hanswer hrecording
    rw [← hcall, ← (World.acquire_asked respond read settings σ).1] at hanswer
    have hdone := (World.run_returned p.mode line hacquire rfl hanswer).1
    rw [← hcall]
    exact ⟨hdone, (World.run_loaded hacquire hdone hrecording).1⟩
  · intro respond read settings line handle outcome σ hdone hrecording
    rw [← hcall]
    exact World.finish_loaded hdone hrecording
  · intro respond read settings limit deadline σ
    rw [← hcall]
    exact World.request_called respond read settings limit deadline p.text p.mode σ
  · intro respond read settings deadline before line rest handle σ
    rw [← hcall]
    exact World.resume_called respond read settings deadline p.mode before line rest handle σ
  · intro respond read settings handle result σ hacquire hfinished hrecording
    rw [← hcall]
    exact World.highlight_calls hacquire hrecording hfinished
  · intro respond read settings handle σ hacquire hanswers hrecording
    rw [← hcall] at hanswers ⊢
    obtain ⟨result, hfinished⟩ := World.highlight_finished read settings σ hanswers
    exact ⟨result, hfinished, World.highlight_calls hacquire hrecording hfinished⟩
  · intro l s s' fields' p' hs hs' hname hname' h' htext hflag
    have hheld' := (ofJson_object_eq_ok_iff.mp h').2
    have hmode : p'.mode = p.mode := by
      have hlanguage := hheld.language_eq hname
      have hlanguage' := hheld'.language_eq hname'
      rw [mode, mode, hlanguage, hlanguage', hflag, Mode.ofRequest_of_spells hs' hs]
    refine ⟨by rw [← hcall, ← hheld'.callOn_eq, hmode], ?_⟩
    intro W C E segments limit deadline
    rw [hmode, htext]

/-- A known language with blanks around it, in capitals, in an object with a key of its own. The
calls for two lines are those that a request to a runtime that echoes them leaves. -/
theorem calls_spec_capitals :
    let fields := [("text", Json.string "a\nb"), ("language", .string " RUST"), ("id", .nat 1),
      ("ignore_illegals", .boolean true)]
    let p : HighlightParams := ⟨"a\nb", some " RUST", true⟩
    let options := Json.object [("language", .string "rust"), ("ignoreIllegals", .boolean true)]
    CallsSpec fields p ∧ callFor fields "a" = .grammar "a" options ∧
      ∃ result, (World.echoing.highlight p.text p.mode (World.unloaded 0)).value =
          .finished result ∧
        (World.echoing.highlight p.text p.mode (World.unloaded 0)).world.world.scripted.calls =
          [.grammar "a" options, .grammar "b" options] := by
  intro fields p options
  have hname : Language.canonical " RUST" = "rust" := by decide +kernel
  have hcall : ∀ line, callFor fields line = .grammar line options := by
    intro line
    simp only [options, callFor, ← hname]
    rfl
  have hspec : CallsSpec fields p := calls_spec rfl
  obtain ⟨result, hfinished, hcalls⟩ := hspec.all_answered (fun _ => Scripted.echo) World.inMemory
    {} ⟨1, 0, "hljs"⟩ (World.unloaded 0) rfl (fun _ _ _ => ⟨_, rfl⟩) rfl
  have htext : Text.lines p.text = ["a", "b"] := by decide +kernel
  have hlines : (Text.lines p.text).map (callFor fields) =
      [.grammar "a" options, .grammar "b" options] := by
    rw [htext, List.map_cons, List.map_cons, hcall, hcall, List.map_nil]
  exact ⟨hspec, hcall "a", result, hfinished, hcalls.trans hlines⟩

end HighlightParams

end LineHighlight
