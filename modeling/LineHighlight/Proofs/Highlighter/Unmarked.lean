import LineHighlight.Proofs.Highlighter.Turns

/-! Requests none of whose lines is marked up.
A line may be late, find no engine, fail in its call or get an answer that cannot be decoded.
It is kept as it was in each of these cases, so in any mixture of them the lines make up the
text again. -/

namespace LineHighlight

open HighlightResult

/-! ## The text given back -/

theorem Text.join_lines {ls : List String} (h : ls ≠ []) :
    String.join (ls.map (· ++ "\n")) = "\n".intercalate ls ++ "\n" := by
  induction ls with
  | nil => exact absurd rfl h
  | cons line rest ih =>
      cases rest with
      | nil => simp
      | cons next rest =>
          have hrest := ih (List.cons_ne_nil _ _)
          rw [List.map_cons, String.join_cons, hrest]
          simp [String.append_assoc]

theorem HighlightResult.unhighlighted_eq (text : String) :
    unhighlighted text = ⟨text ++ "\n", false, "mixed", 0⟩ := by
  have hjoin := Text.join_lines (Text.lines_ne_nil text)
  rw [Text.intercalate_lines] at hjoin
  rw [unhighlighted, failureTerminator, hjoin, mixedLanguage]

namespace Segments

variable {W C E : Type} {s : Segments W C E} {mode : Mode}

/-! ## Lines -/

/-- What becomes of the call for a line; nothing if it never ends. -/
def callLine (s : Segments W C E) (mode : Mode) (line : String) (handle : EngineHandle E) :
    Act (System W E) (Option (Outcome (Except Error Json))) := do
  match ← System.inWorld (s.loader.runtime.start handle.engine mode.engineCall line) with
  | none => return none
  | some duration =>
    System.inWorld (s.clock.wait duration)
    return some (← System.inWorld (s.loader.runtime.finish handle.engine mode.engineCall line))

/-- The ways in which a line that is run is not marked up. -/
inductive Fails (s : Segments W C E) (mode : Mode) (line : String) (σ : System W E) : Prop
  | noEngine (e : Error) (h : (s.loader.acquire σ).value = .error e)
  | callFails (handle : EngineHandle E) (e : Error)
      (hacquire : (s.loader.acquire σ).value = .ok handle)
      (h : (s.callLine mode line handle (s.loader.acquire σ).world).value =
        some (.returned (.error e)))
  | badAnswer (handle : EngineHandle E) (answer : Json) (e : Error)
      (hacquire : (s.loader.acquire σ).value = .ok handle)
      (hcall : (s.callLine mode line handle (s.loader.acquire σ).world).value =
        some (.returned (.ok answer)))
      (h : EngineResult.ofAnswer answer = .error e)

theorem run_value {σ : System W E} {handle : EngineHandle E}
    (h : (s.loader.acquire σ).value = .ok handle) (line : String) :
    (s.run none mode line σ).value =
      match (s.callLine mode line handle (s.loader.acquire σ).world).value with
      | none => .waiting handle none
      | some (.panicked reason) => .panicked reason
      | some (.returned answer) => .done (answer.bind EngineResult.ofAnswer) := by
  simp only [run_of_acquire h, call, callLine, Act.bind_apply]
  cases hstart : (System.inWorld (s.loader.runtime.start handle.engine mode.engineCall line)
      (s.loader.acquire σ).world).value with
  | none => rfl
  | some duration =>
      obtain ⟨υ, hυ⟩ : ∃ υ, (System.inWorld (s.clock.wait duration) (System.inWorld
          (s.loader.runtime.start handle.engine mode.engineCall line)
          (s.loader.acquire σ).world).world).world = υ := ⟨_, rfl⟩
      simp only [finish, Act.bind_apply, Act.pure_apply, hυ]
      cases hended : (System.inWorld (s.loader.runtime.finish handle.engine mode.engineCall line)
          υ).value with
      | panicked reason => rfl
      | returned answer => exact settle_value mode _ _

theorem fails_iff {line : String} {σ : System W E} :
    s.Fails mode line σ ↔ ∃ e, (s.run none mode line σ).value = .done (.error e) := by
  constructor
  · rintro (⟨e, h⟩ | ⟨handle, e, hacquire, h⟩ | ⟨handle, answer, e, hacquire, hcall, h⟩)
    · exact ⟨e, by simp [run, h]⟩
    · exact ⟨e, by rw [run_value hacquire, h]; rfl⟩
    · refine ⟨e, ?_⟩
      rw [run_value hacquire, hcall]
      simp only [Except.bind, h]
  · rintro ⟨e, h⟩
    cases hacquire : (s.loader.acquire σ).value with
    | error e' => exact .noEngine e' hacquire
    | ok handle =>
        rw [run_value hacquire] at h
        cases hcall : (s.callLine mode line handle (s.loader.acquire σ).world).value with
        | none =>
            rw [hcall] at h
            cases h
        | some ended =>
            rw [hcall] at h
            cases ended with
            | panicked reason => cases h
            | returned answer =>
                cases answer with
                | error e' => exact .callFails handle e' hacquire hcall
                | ok answer => exact .badAnswer handle answer e hacquire hcall (LineRun.done.inj h)

/-! ## Requests -/

/-- Each line in turn is late or fails. -/
inductive Unmarked (s : Segments W C E) (deadline : Option Nat) (mode : Mode) :
    System W E → List String → Prop
  | nil (σ : System W E) : Unmarked s deadline mode σ []
  | late {σ : System W E} {line : String} {lines : List String}
      (hlate : (s.isLate deadline σ).value = true)
      (hrest : Unmarked s deadline mode (s.isLate deadline σ).world lines) :
      Unmarked s deadline mode σ (line :: lines)
  | failed {σ : System W E} {line : String} {lines : List String}
      (hearly : (s.isLate deadline σ).value = false)
      (hfails : s.Fails mode line (s.isLate deadline σ).world)
      (hrest : Unmarked s deadline mode (s.run none mode line (s.isLate deadline σ).world).world
        lines) :
      Unmarked s deadline mode σ (line :: lines)

end Segments

/-- What has been made of lines when all of some more lines have been kept. -/
structure Progress.Keeps (p : Progress) (lines : List String) (q : Progress) : Prop where
  result_eq : q.result =
    { p.result with value := p.value ++ String.join (lines.map (· ++ "\n")) }
  counts : q.segments + p.failures = q.failures + p.segments

theorem Progress.Keeps.refl (p : Progress) : p.Keeps [] p where
  result_eq := by simp [result]
  counts := Nat.add_comm _ _

theorem Progress.Keeps.cons {p q r : Progress} {line : String} {lines : List String}
    (h : p.Keeps [line] q) (hrest : q.Keeps lines r) : p.Keeps (line :: lines) r where
  result_eq := by
    have hvalue : q.value = p.value ++ String.join ([line].map (· ++ "\n")) :=
      congrArg HighlightResult.value h.result_eq
    rw [hrest.result_eq, h.result_eq, hvalue]
    simp [String.append_assoc]
  counts := by
    have hfirst := h.counts
    have hothers := hrest.counts
    omega

theorem Progress.keeps_keep (p : Progress) (line : String) : p.Keeps [line] (p.keep line) where
  result_eq := by simp [result, keep, failureTerminator, String.append_assoc]
  counts := by
    simp only [keep]
    omega

theorem Progress.keeps_skip (p : Progress) (line : String) : p.Keeps [line] (p.skip line) where
  result_eq := by simp [result, skip, keep, failureTerminator, String.append_assoc]
  counts := by
    simp only [skip, keep]
    omega

namespace Segments

variable {W C E : Type} {s : Segments W C E} {mode : Mode}

theorem Unmarked.runLines {deadline : Option Nat} {lines : List String} {σ : System W E}
    (h : s.Unmarked deadline mode σ lines) (p : Progress) :
    ∃ q, (s.runLines none deadline mode lines p σ).value = .finished q ∧ p.Keeps lines q := by
  induction h generalizing p with
  | nil σ => exact ⟨p, rfl, .refl p⟩
  | late hlate _ ih =>
      obtain ⟨q, hq, hkeeps⟩ := ih (p.skip _)
      refine ⟨q, ?_, (p.keeps_skip _).cons hkeeps⟩
      simp only [Segments.runLines, Act.bind_apply, hlate, if_true, hq]
  | failed hearly hfails _ ih =>
      obtain ⟨e, hrun⟩ := fails_iff.mp hfails
      obtain ⟨q, hq, hkeeps⟩ := ih (p.keep _)
      refine ⟨q, ?_, (p.keeps_keep _).cons hkeeps⟩
      simp only [Segments.runLines, Act.bind_apply, hearly, Bool.false_eq_true, if_false, hrun]
      exact hq

/-- A finished run skipped its first line or got an outcome for it. -/
theorem runLines_cons_finished {limit deadline : Option Nat} {line : String} {lines : List String}
    {p q : Progress} {σ : System W E}
    (h : (s.runLines limit deadline mode (line :: lines) p σ).value = .finished q) :
    (s.isLate deadline σ).value = true ∧
        (s.runLines limit deadline mode lines (p.skip line) (s.isLate deadline σ).world).value =
          .finished q ∨
      ∃ outcome, (s.isLate deadline σ).value = false ∧
        (s.run limit mode line (s.isLate deadline σ).world).value = .done outcome ∧
        (s.runLines limit deadline mode lines (p.record line outcome)
          (s.run limit mode line (s.isLate deadline σ).world).world).value = .finished q := by
  simp only [Segments.runLines, Act.bind_apply] at h
  cases hlate : (s.isLate deadline σ).value with
  | true =>
      simp only [hlate, if_true] at h
      exact .inl ⟨rfl, h⟩
  | false =>
      simp only [hlate, Bool.false_eq_true, if_false, Act.bind_apply] at h
      cases hran : (s.run limit mode line (s.isLate deadline σ).world).value with
      | done outcome =>
          simp only [hran] at h
          exact .inr ⟨outcome, rfl, rfl, h⟩
      | panicked reason =>
          simp only [hran] at h
          cases h
      | waiting handle wake =>
          simp only [hran] at h
          cases h

theorem runLines_counts {deadline : Option Nat} {lines : List String} {p q : Progress}
    {σ : System W E} (h : (s.runLines none deadline mode lines p σ).value = .finished q) :
    q.failures + p.segments ≤ q.segments + p.failures := by
  induction lines generalizing p σ with
  | nil =>
      obtain rfl := RequestRun.finished.inj h
      omega
  | cons line lines ih =>
      rcases runLines_cons_finished h with ⟨-, hrest⟩ | ⟨outcome, -, -, hrest⟩
      · have hcounts := ih hrest
        simp only [Progress.skip, Progress.keep] at hcounts
        omega
      · have hcounts := ih hrest
        cases outcome with
        | ok r =>
            simp only [Progress.record, Progress.add] at hcounts
            omega
        | error e =>
            simp only [Progress.record, Progress.keep] at hcounts
            omega

/-- If all lines of a finished request were kept, each of them was late or failed. -/
theorem Unmarked.of_counts {deadline : Option Nat} {lines : List String} {p q : Progress}
    {σ : System W E} (h : (s.runLines none deadline mode lines p σ).value = .finished q)
    (hcounts : q.segments + p.failures = q.failures + p.segments) :
    s.Unmarked deadline mode σ lines := by
  induction lines generalizing p σ with
  | nil => exact .nil σ
  | cons line lines ih =>
      rcases runLines_cons_finished h with ⟨hlate, hrest⟩ | ⟨outcome, hearly, hrun, hrest⟩
      · refine .late hlate (ih hrest ?_)
        simp only [Progress.skip, Progress.keep]
        omega
      · cases outcome with
        | ok r =>
            -- A line that is marked up is one that the failures do not make up for any more.
            have hlost := runLines_counts hrest
            simp only [Progress.record, Progress.add] at hlost
            omega
        | error e =>
            refine .failed hearly (fails_iff.mpr ⟨e, hrun⟩) (ih hrest ?_)
            simp only [Progress.record, Progress.keep]
            omega

theorem unmarked_iff {deadline : Option Nat} {lines : List String} {σ : System W E} :
    s.Unmarked deadline mode σ lines ↔
      ∃ q, (s.runLines none deadline mode lines {} σ).value = .finished q ∧
        q.failures = q.segments := by
  constructor
  · intro h
    obtain ⟨q, hq, hkeeps⟩ := h.runLines {}
    exact ⟨q, hq, hkeeps.counts.symm⟩
  · rintro ⟨q, hq, hcounts⟩
    exact .of_counts hq hcounts.symm

theorem Unmarked.request {deadline : Option Nat} {text : String} {σ : System W E}
    (h : s.Unmarked deadline mode σ (Text.lines text)) :
    (s.request none deadline text mode σ).value = .finished (unhighlighted text) := by
  obtain ⟨q, hq, hkeeps⟩ := h.runLines {}
  have hresult : q.result = unhighlighted text := by
    rw [hkeeps.result_eq]
    simp [Progress.result, unhighlighted, failureTerminator]
  simp [Segments.request, Act.write, hq, conclude, hresult]

end Segments

end LineHighlight
