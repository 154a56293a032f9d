import LineHighlight.Proofs.Highlighter.Recording

/-! Two texts with a line feed between them.
The lines of the one stand before those of the other, so one request for both does what two
requests do, one after the other: the same operations in the same order, with the results put
together. -/

namespace LineHighlight

open HighlightResult

/-- A result put together from the results of two parts. -/
structure HighlightResult.Joined (first second whole : HighlightResult) : Prop where
  value_eq : whole.value = first.value ++ second.value
  relevance_eq : whole.relevance = min (2 ^ 32 - 1) (first.relevance + second.relevance)
  illegal_eq : whole.illegal = (first.illegal || second.illegal)
  language_eq : whole.language = "mixed"

theorem HighlightResult.joined_stitched {lines : List String}
    {outcomes : List (Except Error EngineResult)} (h : outcomes.length = lines.length)
    (lines' : List String) (outcomes' : List (Except Error EngineResult)) :
    Joined (stitched lines outcomes) (stitched lines' outcomes')
      (stitched (lines ++ lines') (outcomes ++ outcomes')) where
  value_eq := stitched_append_value h lines' outcomes'
  relevance_eq := stitched_append_relevance lines' outcomes'
  illegal_eq := stitched_append_illegal lines' outcomes'
  language_eq := rfl

namespace Segments

variable {W C E : Type} {s : Segments W C E}

theorem InTurn.newline {mode : Mode} {σ τ υ : System W E} {a b : String}
    {outcomes outcomes' : List (Except Error EngineResult)} {logs logs' : List LogEntry}
    (h : s.InTurn mode σ (Text.lines a) outcomes τ logs)
    (h' : s.InTurn mode τ (Text.lines b) outcomes' υ logs') :
    s.InTurn mode σ (Text.lines (a ++ "\n" ++ b)) (outcomes ++ outcomes') υ (logs ++ logs') := by
  rw [Text.lines_newline]
  exact h.append h'

theorem highlight_newline_world (h : s.loader.runtime.CallsReturn) (a b : String) (mode : Mode)
    (σ : System W E) :
    (s.highlight (a ++ "\n" ++ b) mode σ).world =
      (s.highlight b mode (s.highlight a mode σ).world).world := by
  obtain ⟨_, τ, _, hfirst⟩ := exists_inTurn h mode (Text.lines a) σ
  obtain ⟨_, υ, _, hsecond⟩ := exists_inTurn h mode (Text.lines b) τ
  rw [(hfirst.newline hsecond).highlight_world, hfirst.highlight_world,
    hsecond.highlight_world]

/-- The operations for both texts are those for the one and then those for the other. -/
theorem operations_newline (h : s.loader.runtime.CallsReturn) (a b : String) (mode : Mode)
    (σ : System W E) :
    s.operations (a ++ "\n" ++ b) mode σ =
      s.operations a mode σ ++ s.operations b mode (s.highlight a mode σ).world := by
  -- The record is a part of the world that the recorded requests leave.
  have hcalls : s.recorded.loader.runtime.CallsReturn := s.recorded_lifts.loader.callsReturn h
  rw [operations, highlight_newline_world hcalls, recorded_highlight_world,
    recorded_highlight_world]
  rfl

/-- A text may be cut at any of its line feeds into two requests. -/
theorem highlight_newline (h : s.loader.runtime.CallsReturn) (a b : String) (mode : Mode)
    (σ : System W E) :
    ∃ first second whole,
      (s.highlight a mode σ).value = .finished first ∧
      (s.highlight b mode (s.highlight a mode σ).world).value = .finished second ∧
      (s.highlight (a ++ "\n" ++ b) mode σ).value = .finished whole ∧
      Joined first second whole ∧
      (s.highlight (a ++ "\n" ++ b) mode σ).world =
        (s.highlight b mode (s.highlight a mode σ).world).world ∧
      s.operations (a ++ "\n" ++ b) mode σ =
        s.operations a mode σ ++ s.operations b mode (s.highlight a mode σ).world := by
  obtain ⟨outcomes, τ, _, hfirst⟩ := exists_inTurn h mode (Text.lines a) σ
  obtain ⟨outcomes', υ, _, hsecond⟩ := exists_inTurn h mode (Text.lines b) τ
  have hwhole := (hfirst.newline hsecond).highlight_value
  refine ⟨stitched (Text.lines a) outcomes, stitched (Text.lines b) outcomes', _,
    hfirst.highlight_value, ?_, hwhole, ?_, highlight_newline_world h a b mode σ,
    operations_newline h a b mode σ⟩
  · rw [hfirst.highlight_world]
    exact hsecond.highlight_value
  · rw [Text.lines_newline]
    exact joined_stitched hfirst.length_eq _ _

/-- The engine is not there for the text before the line feed and is made for the text after
it. -/
theorem highlight_newline_late_engine :
    World.echoing.loader.runtime.CallsReturn ∧
      ∃ first second whole, Joined first second whole ∧
        first = ⟨"a\n", false, "mixed", 0⟩ ∧
        second = ⟨"<span>b</span>\n <span>c</span>\n ", false, "mixed", 2⟩ ∧
        whole = ⟨"a\n<span>b</span>\n <span>c</span>\n ", false, "mixed", 2⟩ := by
  refine ⟨World.echoing_callsReturn, ?_⟩
  obtain ⟨first, second, whole, hfirst, hsecond, hwhole, hjoined, -, -⟩ :=
    highlight_newline World.echoing_callsReturn "a" "b\nc" .automatic (World.unloaded 1)
  exact ⟨first, second, whole, hjoined, (RequestRun.finished.inj hfirst).symm,
    (RequestRun.finished.inj hsecond).symm, (RequestRun.finished.inj hwhole).symm⟩

end Segments

end LineHighlight
