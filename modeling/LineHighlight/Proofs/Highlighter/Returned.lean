import LineHighlight.Proofs.Highlighter.Alignment
import LineHighlight.Proofs.Highlighter.Causes
import LineHighlight.Proofs.Script.Library

/-! Lines whose function returns an object with two strings.
The line is marked up with the texts that the strings are, or the call fails and the line is
kept. Which of the two it is depends on the surrogates in the strings and on nothing else that
the object holds. -/

namespace LineHighlight

open Text (HasLoneSurrogate Unit16 units)

/-! ## A line that is reached -/

namespace Segments

section Reached

variable {W C E : Type} {s : Segments W C E} {mode : Mode} {limit deadline : Option Nat}

theorem runLines_append {front : List String} {p q : Progress} {σ : System W E}
    (h : (s.runLines limit deadline mode front p σ).value = .finished q) (back : List String) :
    (s.runLines limit deadline mode (front ++ back) p σ).value =
      (s.runLines limit deadline mode back q
        (s.runLines limit deadline mode front p σ).world).value := by
  induction front generalizing p σ with
  | nil =>
      obtain rfl := RequestRun.finished.inj h
      rfl
  | cons line front ih =>
      rcases runLines_cons_finished h with ⟨hlate, hrest⟩ | ⟨outcome, hearly, hrun, hrest⟩
      · simp only [List.cons_append, runLines, Act.bind_apply, hlate, if_true]
        exact ih hrest
      · simp only [List.cons_append, runLines, Act.bind_apply, hearly, Bool.false_eq_true, if_false,
          hrun]
        exact ih hrest

/-- A request has worked on some lines and now runs the next one in a system. -/
structure Reaches (s : Segments W C E) (deadline : Option Nat) (mode : Mode) (σ : System W E)
    (front : List String) (p : Progress) (τ : System W E) : Prop where
  finished : (s.runLines none deadline mode front {} σ).value = .finished p
  early : (s.isLate deadline (s.runLines none deadline mode front {} σ).world).value = false
  world : (s.isLate deadline (s.runLines none deadline mode front {} σ).world).world = τ

/-- A line that is reached and fails stands as it is behind what was made of those before it. -/
theorem Reaches.kept {text : String} {front back : List String} {line : String} {p : Progress}
    {σ τ : System W E} (h : s.Reaches deadline mode σ front p τ)
    (hlines : Text.lines text = front ++ line :: back) {e : Error}
    (hrun : (s.run none mode line τ).value = .done (.error e)) {result : HighlightResult}
    (hresult : (s.request none deadline text mode σ).value = .finished result) :
    ∃ rest, result.value = p.value ++ (line ++ "\n") ++ rest := by
  obtain ⟨q, hq, rfl⟩ := request_value_eq_finished_iff.mp hresult
  rw [hlines, runLines_append h.finished] at hq
  rcases runLines_cons_finished hq with ⟨hlate, -⟩ | ⟨outcome, -, hran, hrest⟩
  · rw [h.early] at hlate
    cases hlate
  · rw [h.world, hrun] at hran
    obtain rfl := LineRun.done.inj hran
    obtain ⟨marks, -, hvalue⟩ := exists_marks hrest
    refine ⟨written back marks, hvalue.trans ?_⟩
    rw [Progress.record_value]
    rfl

end Reached

end Segments

/-! ## A result with two strings -/

namespace ScriptLibrary

variable {S V : Type} [Inhabited S] {lib : ScriptLibrary S V} {limits : ScriptLimits}
  {bundle : Bundle (World S)} {settings : EngineSettings} {mode : Mode} {line : String}
  {σ : System (World S) EngineRef} {handle : EngineHandle EngineRef}

/-- The function that is called for a line returns a result, and leaves its context in a state. -/
def Returns (lib : ScriptLibrary S V) (handle : EngineHandle EngineRef) (mode : Mode)
    (line : String) (w : World S) (result : V) (t : S) : Prop :=
  let c := w.context handle.engine.context
  ∃ took, lib.callFunction handle.engine.entryPoint mode.engineCall line (c.enter w.now).handler
    w.now c.state = some ⟨.ok result, t, took⟩

/-- A line whose function returns two strings comes to what their JSON text decodes to. -/
theorem run_of_returns {laws : lib.ObjectLaws} {left : S → Prop} {obj : V} {t : S}
    {us vs : List Unit16}
    (hacquire : ((lib.segments limits bundle settings).loader.acquire σ).value = .ok handle)
    (hreturns : lib.Returns handle mode line
      ((lib.segments limits bundle settings).loader.acquire σ).world.world obj t)
    (hleft : left t) (h : HoldsStrings laws left obj us vs) :
    ∃ illegal n, -2 ^ 31 ≤ n ∧ n < 2 ^ 31 ∧ ∀ value language,
      ((lib.segments limits bundle settings).run none mode line σ).value =
        .done (Script.decoded mode.engineCall (Script.objectText
          (Script.writtenStrings us vs value language illegal n))) := by
  obtain ⟨τ, hτ⟩ : ∃ τ, ((lib.segments limits bundle settings).loader.acquire σ).world = τ :=
    ⟨_, rfl⟩
  rw [hτ] at hreturns
  obtain ⟨took, hcall⟩ := hreturns
  obtain ⟨text, u, more, hresult, illegal, n, hlow, hhigh, htext⟩ := h.resultText hleft
    ((τ.world.context handle.engine.context).enter τ.world.now).handler (τ.world.now + took)
  have hcalled : lib.called handle.engine mode.engineCall line
      (τ.world.context handle.engine.context) τ.world.now = some ⟨.ok text, u, took + more⟩ := by
    rw [called, callMethod, Execution.bind_of_ok hcall, hresult]
    rfl
  refine ⟨illegal, n, hlow, hhigh, fun value language => ?_⟩
  rw [lib.run_value hacquire hτ, hcalled, htext value language]
  rfl

/-- What becomes of a line whose function returned two strings. -/
structure StringsSpec (s : Segments (World S) Nat EngineRef) (mode : Mode) (line : String)
    (σ : System (World S) EngineRef) (us vs : List Unit16) : Prop where
  succeeds_iff : (∃ r, (s.run none mode line σ).value = .done (.ok r)) ↔
    ¬ HasLoneSurrogate us ∧ ¬ HasLoneSurrogate vs
  /-- The texts are the strings, unit by unit. -/
  texts : ∀ r, (s.run none mode line σ).value = .done (.ok r) →
    units r.value = us ∧ units r.language = vs
  refused : HasLoneSurrogate us ∨ HasLoneSurrogate vs →
    ∃ reason, (s.run none mode line σ).value = .done (.error (.serialization reason))
  kept : HasLoneSurrogate us ∨ HasLoneSurrogate vs →
    ∀ {deadline text front back p τ result}, Text.lines text = front ++ line :: back →
      s.Reaches deadline mode τ front p σ →
      (s.request none deadline text mode τ).value = .finished result →
      ∃ rest, result.value = p.value ++ (line ++ "\n") ++ rest

end ScriptLibrary

namespace Script

/-- An object that holds itself. A quotation mark follows the high surrogate in its value. -/
def loneResult : Value :=
  .cyclic (.record .undefined [("value", .string [0x61, 0xd800, 0x22]),
    ("language", .string [0x62]), ("state", .symbol)])

theorem holdsStrings_loneResult :
    ScriptLibrary.HoldsStrings library_objectLaws (fun _ => True) (.value loneResult)
      [0x61, 0xd800, 0x22] [0x62] where
  isObject := rfl
  ordinary := id
  later _ _ := trivial
  value _ := fun _ _ => ⟨_, _, 0, rfl, rfl, trivial⟩
  language _ := fun _ _ => ⟨_, _, 0, rfl, rfl, trivial⟩
  illegal _ := fun _ _ => ⟨_, _, 0, rfl, trivial⟩
  relevance _ := fun _ _ => ⟨_, _, 0, rfl, ⟨_, rfl⟩, trivial⟩

end Script

end LineHighlight
