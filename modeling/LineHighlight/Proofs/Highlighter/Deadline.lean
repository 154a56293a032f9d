import LineHighlight.Proofs.Highlighter.Recording
import Mathlib.Data.Nat.Count

/-! Requests with a deadline, for every sequence of times that the clock may show.
Time does not go back, so the lines that are started are the first lines of the text. They do
what a request for them alone does; the lines behind them are kept and touch nothing. -/

namespace LineHighlight

open HighlightResult

/-! ## Clocks that show what they are told -/

/-- A world with a clock that has been read a number of times. -/
structure Clocked (W : Type) where
  world : W
  taken : Nat

namespace Clocked

variable {W α : Type}

/-- An action that does not read the clock. -/
def timeless (x : Act W α) : Act (Clocked W) α :=
  x.on Clocked.world fun c w => { c with world := w }

/-- The next reading. -/
def reading (readings : Nat → Nat) : Act (Clocked W) Nat :=
  fun c => ⟨readings c.taken, { c with taken := c.taken + 1 }, []⟩

/-! ## Early readings -/

/-- When time does not go back, the early readings are the first ones. -/
theorem lt_count_iff {readings : Nat → Nat} (hreadings : Monotone readings) (deadline : Nat)
    {i n : Nat} (hi : i < n) :
    i < Nat.count (readings · < deadline) n ↔ readings i < deadline := by
  constructor
  · intro hlt
    by_contra hlate
    have hrest : Nat.count (fun j => readings (i + j) < deadline) (n - i) = 0 := by
      rw [Nat.count_iff_forall_not]
      intro j _
      have hle := hreadings (Nat.le_add_right i j)
      omega
    -- From the first late reading on there is nothing to count.
    have hsplit := Nat.count_add (readings · < deadline) i (n - i)
    have hfirst := Nat.count_le (p := (readings · < deadline)) (n := i)
    rw [hrest, Nat.add_sub_cancel' hi.le] at hsplit
    omega
  · intro hearly
    have hall : Nat.count (readings · < deadline) (i + 1) = i + 1 := by
      rw [Nat.count_iff_forall]
      intro j hj
      exact (hreadings (Nat.le_of_lt_succ hj)).trans_lt hearly
    have hle : Nat.count (readings · < deadline) (i + 1) ≤ _ := Nat.count_monotone _ hi
    omega

/-- The readings for the first `k` of `n` lines are early, the others are not. -/
structure Cut (readings : Nat → Nat) (deadline n k : Nat) : Prop where
  le : k ≤ n
  early_iff : ∀ i < n, i < k ↔ readings i < deadline

theorem cut_count {readings : Nat → Nat} (hreadings : Monotone readings) (deadline n : Nat) :
    Cut readings deadline n (Nat.count (readings · < deadline) n) where
  le := Nat.count_le _
  early_iff _ hi := lt_count_iff hreadings deadline hi

end Clocked

/-- A system whose clock has been read a number of times. -/
def System.clocked {W E : Type} (σ : System W E) (taken : Nat) : System (Clocked W) E :=
  σ.map (Clocked.mk · taken)

namespace Segments

variable {W C E : Type}

/-- The lines, with the readings of their clock. -/
def withReadings (s : Segments W C E) (readings : Nat → Nat) : Segments (Clocked W) C E where
  loader :=
    { runtime := s.loader.runtime.on Clocked.world fun c w => { c with world := w }
      bundle :=
        { load := fun name extension => Clocked.timeless (s.loader.bundle.load name extension) }
      settings := s.loader.settings }
  clock :=
    { read := Clocked.reading readings
      wait := fun duration => Clocked.timeless (s.clock.wait duration) }

theorem lifts_withReadings (s : Segments W C E) (readings : Nat → Nat) (taken : Nat) :
    s.Lifts (Clocked.mk · taken) (s.withReadings readings) where
  loader :=
    { settings_eq := rfl
      name_eq := rfl
      createContext := fun _ => rfl
      load := fun _ _ _ => rfl
      evaluate := fun _ _ _ => rfl
      intoEngine := fun _ _ _ => rfl
      start := fun _ _ _ _ => rfl
      finish := fun _ _ _ _ => rfl }
  wait _ _ := rfl

section Readings

variable {s : Segments W C E} {readings : Nat → Nat} {deadline : Nat} {mode : Mode}
  {σ τ : System W E}

/-- A line does what it does without the readings and takes none. -/
theorem run_clocked (s : Segments W C E) (readings : Nat → Nat) (mode : Mode) (line : String)
    (σ : System W E) (taken : Nat) :
    (s.withReadings readings).run none mode line (σ.clocked taken) =
      (s.run none mode line σ).seen (System.clocked · taken) :=
  ((s.lifts_withReadings readings taken).run mode line σ).symm

theorem isLate_clocked (s : Segments W C E) (readings : Nat → Nat) (deadline : Nat)
    (σ : System W E) (taken : Nat) :
    (s.withReadings readings).isLate (some deadline) (σ.clocked taken) =
      ⟨decide (deadline ≤ readings taken), σ.clocked (taken + 1), []⟩ := rfl

/-! ## Early lines and late lines -/

private theorem readings_cons {P : Nat → Prop} {line : String} {lines : List String}
    {taken : Nat} (h : ∀ i < (line :: lines).length, P (readings (taken + i))) :
    P (readings taken) ∧ ∀ i < lines.length, P (readings (taken + 1 + i)) := by
  refine ⟨h 0 (by simp), fun i hi => ?_⟩
  have hnext := h (i + 1) (by simpa using hi)
  rwa [Nat.add_right_comm]

/-- Lines are run in turn as long as their readings are early. -/
theorem InTurn.runLines_early {lines : List String}
    {outcomes : List (Except Error EngineResult)} {logs : List LogEntry}
    (h : s.InTurn mode σ lines outcomes τ logs) (rest : List String) (p : Progress)
    (taken : Nat) (hearly : ∀ i < lines.length, readings (taken + i) < deadline) :
    let later := (s.withReadings readings).runLines none (some deadline) mode rest
      (p.recordAll lines outcomes) (τ.clocked (taken + lines.length))
    (s.withReadings readings).runLines none (some deadline) mode (lines ++ rest) p
        (σ.clocked taken) = ⟨later.value, later.world, logs ++ later.logs⟩ := by
  induction h generalizing p taken with
  | nil σ => rfl
  | @cons σ τ line lines outcome outcomes logs hline hrest ih =>
      obtain ⟨hfirst, hothers⟩ := readings_cons (P := (· < deadline)) hearly
      have hearly : ¬deadline ≤ readings taken := Nat.not_le.mpr hfirst
      have htaken : taken + 1 + lines.length = taken + (line :: lines).length :=
        Nat.add_right_comm taken 1 lines.length
      have ih := ih (p.record line outcome) (taken + 1) hothers
      rw [htaken] at ih
      simp [Segments.runLines, isLate_clocked, run_clocked, hearly, Effect.seen, hline, ih]

/-- Lines with late readings are kept, and nothing is done for them. -/
theorem runLines_late (s : Segments W C E) (mode : Mode) (lines : List String) (p : Progress)
    (σ : System W E) (taken : Nat) (hlate : ∀ i < lines.length, deadline ≤ readings (taken + i)) :
    (s.withReadings readings).runLines none (some deadline) mode lines p (σ.clocked taken) =
      ⟨.finished (p.skipAll lines), σ.clocked (taken + lines.length), []⟩ := by
  induction lines generalizing p taken with
  | nil => rfl
  | cons line lines ih =>
      obtain ⟨hfirst, hothers⟩ := readings_cons (P := (deadline ≤ ·)) hlate
      have htaken : taken + 1 + lines.length = taken + (line :: lines).length :=
        Nat.add_right_comm taken 1 lines.length
      have ih := ih (p.skip line) (taken + 1) hothers
      rw [htaken] at ih
      simp [Segments.runLines, isLate_clocked, hfirst, ih, Progress.skipAll]

end Readings

/-! ## The first lines of a text -/

/-- Highlights the first lines of a text, and does nothing if there are none. -/
def highlightFirst (s : Segments W C E) (k : Nat) (text : String) (mode : Mode) :
    Act (System W E) (RequestRun E HighlightResult) :=
  if k = 0 then
    return .finished ⟨"", false, "mixed", 0⟩
  else
    s.highlight ("\n".intercalate ((Text.lines text).take k)) mode

section First

variable {s : Segments W C E} {mode : Mode} {σ τ : System W E} {text : String} {k : Nat}
  {outcomes : List (Except Error EngineResult)} {logs : List LogEntry}

theorem InTurn.highlightFirst_value
    (h : s.InTurn mode σ ((Text.lines text).take k) outcomes τ logs) :
    (s.highlightFirst k text mode σ).value =
      .finished (stitched ((Text.lines text).take k) outcomes) := by
  rcases Nat.eq_zero_or_pos k with rfl | hk
  · cases h
    rfl
  · rw [← Text.lines_intercalate_take text hk] at h ⊢
    rw [highlightFirst, if_neg (by omega)]
    exact h.highlight_value

theorem InTurn.highlightFirst_world
    (h : s.InTurn mode σ ((Text.lines text).take k) outcomes τ logs) :
    (s.highlightFirst k text mode σ).world = τ := by
  rcases Nat.eq_zero_or_pos k with rfl | hk
  · cases h
    rfl
  · rw [← Text.lines_intercalate_take text hk] at h
    rw [highlightFirst, if_neg (by omega)]
    exact h.highlight_world

end First

/-! ## Requests with a deadline -/

section Cut

variable {s : Segments W C E} {readings : Nat → Nat} {deadline : Nat} {mode : Mode}
  {σ τ : System W E} {text : String} {k : Nat}

theorem InTurn.runLines_cut {lines : List String} {outcomes : List (Except Error EngineResult)}
    {logs : List LogEntry} (h : s.InTurn mode σ (lines.take k) outcomes τ logs)
    (hcut : Clocked.Cut readings deadline lines.length k) (p : Progress) :
    (s.withReadings readings).runLines none (some deadline) mode lines p (σ.clocked 0) =
      ⟨.finished ((p.recordAll (lines.take k) outcomes).skipAll (lines.drop k)),
        τ.clocked lines.length, logs⟩ := by
  have hk := hcut.le
  have hlength : (lines.take k).length = k := by simp [hk]
  have hearly : ∀ i < (lines.take k).length, readings (0 + i) < deadline := by
    intro i hi
    rw [Nat.zero_add]
    exact (hcut.early_iff i (by omega)).mp (by omega)
  have hlate : ∀ i < (lines.drop k).length, deadline ≤ readings (k + i) := by
    intro i hi
    rw [List.length_drop] at hi
    exact Nat.not_lt.mp (mt (hcut.early_iff (k + i) (by omega)).mpr (by omega))
  -- The early lines leave their loader and their world to the late ones, which leave them alone.
  have hrun := h.runLines_early (lines.drop k) p 0 hearly
  have hrest := s.runLines_late mode (lines.drop k) (p.recordAll (lines.take k) outcomes) τ k hlate
  have hall : k + (lines.drop k).length = lines.length := by
    rw [List.length_drop]
    omega
  rw [hall] at hrest
  rw [List.take_append_drop, Nat.zero_add, hlength] at hrun
  simpa only [hrest, List.append_nil] using hrun

theorem highlightUntil_value (h : s.loader.runtime.CallsReturn)
    (hcut : Clocked.Cut readings deadline (Text.lines text).length k) (mode : Mode)
    (σ : System W E) :
    ∃ first, (s.highlightFirst k text mode σ).value = .finished first ∧
      first.language = "mixed" ∧
      ((s.withReadings readings).highlightUntil text mode deadline (σ.clocked 0)).value =
        .finished { first with
          value := first.value ++ String.join (((Text.lines text).drop k).map (· ++ "\n")) } := by
  obtain ⟨outcomes, τ, logs, hturns⟩ := exists_inTurn h mode ((Text.lines text).take k) σ
  refine ⟨_, hturns.highlightFirst_value, rfl, ?_⟩
  rw [highlightUntil, request_finished (hturns.runLines_cut hcut {}), Progress.skipAll_result,
    Progress.recordAll_result hturns.length_eq]

/-- What is behind the first lines is not there for the loader and its world. -/
theorem highlightUntil_world (h : s.loader.runtime.CallsReturn)
    (hcut : Clocked.Cut readings deadline (Text.lines text).length k) (mode : Mode)
    (σ : System W E) :
    ((s.withReadings readings).highlightUntil text mode deadline (σ.clocked 0)).world =
      (s.highlightFirst k text mode σ).world.clocked (Text.lines text).length := by
  obtain ⟨outcomes, τ, logs, hturns⟩ := exists_inTurn h mode ((Text.lines text).take k) σ
  rw [highlightUntil, request_finished (hturns.runLines_cut hcut {}),
    hturns.highlightFirst_world]

/-- A deadline that is not reached makes no difference. -/
theorem highlightUntil_early (h : s.loader.runtime.CallsReturn) (mode : Mode) (σ : System W E)
    (hearly : ∀ i < (Text.lines text).length, readings i < deadline) :
    ((s.withReadings readings).highlightUntil text mode deadline (σ.clocked 0)).seen
        (System.map Clocked.world) = s.highlight text mode σ := by
  obtain ⟨outcomes, τ, logs, hturns⟩ := exists_inTurn h mode (Text.lines text) σ
  have hcut : Clocked.Cut readings deadline (Text.lines text).length (Text.lines text).length :=
    ⟨Nat.le_refl _, fun i hi => ⟨fun _ => hearly i hi, fun _ => hi⟩⟩
  have hall : s.InTurn mode σ ((Text.lines text).take (Text.lines text).length) outcomes τ
      logs := by
    rwa [List.take_length]
  have hrun := hall.runLines_cut hcut {}
  rw [List.take_length, List.drop_length] at hrun
  rw [highlightUntil, highlight, request_finished hrun, request_finished (hturns.runLines {})]
  simp only [Effect.seen, Progress.skipAll, List.foldl_nil]
  rw [logSummary_logs _ (τ.clocked _) τ]
  rfl

/-- A deadline that is reached before the first line leaves the text and the system alone. -/
theorem highlightUntil_late (h : s.loader.runtime.CallsReturn) (mode : Mode) (σ : System W E)
    (hlate : ∀ i < (Text.lines text).length, deadline ≤ readings i) :
    ((s.withReadings readings).highlightUntil text mode deadline (σ.clocked 0)).value =
        .finished (unhighlighted text) ∧
      ((s.withReadings readings).highlightUntil text mode deadline (σ.clocked 0)).world =
        σ.clocked (Text.lines text).length := by
  have hcut : Clocked.Cut readings deadline (Text.lines text).length 0 :=
    ⟨Nat.zero_le _, fun i hi => iff_of_false (Nat.not_lt_zero i) (hlate i hi).not_gt⟩
  refine ⟨?_, highlightUntil_world h hcut mode σ⟩
  obtain ⟨first, hfirst, -, hvalue⟩ := highlightUntil_value h hcut mode σ
  obtain rfl : ⟨"", false, "mixed", 0⟩ = first := RequestRun.finished.inj hfirst
  rw [hvalue, List.drop_zero, String.empty_append]
  rfl

end Cut

/-- What a request with a deadline makes of a text whose first `k` lines are early. -/
structure DeadlineSpec (s : Segments W C E) (readings : Nat → Nat) (text : String) (mode : Mode)
    (deadline : Nat) (σ : System W E) (k : Nat) : Prop where
  early_iff : ∀ i < (Text.lines text).length, i < k ↔ readings i < deadline
  /-- The first lines are run and recorded, the other ones are skipped. -/
  started : ∃ outcomes τ logs, s.InTurn mode σ ((Text.lines text).take k) outcomes τ logs ∧
    (s.withReadings readings).runLines none (some deadline) mode (Text.lines text) {}
        (σ.clocked 0) =
      ⟨.finished ((Progress.recordAll {} ((Text.lines text).take k) outcomes).skipAll
        ((Text.lines text).drop k)), τ.clocked (Text.lines text).length, logs⟩
  value_eq : ∃ first, (s.highlightFirst k text mode σ).value = .finished first ∧
    first.language = "mixed" ∧
    ((s.withReadings readings).highlightUntil text mode deadline (σ.clocked 0)).value =
      .finished { first with
        value := first.value ++ String.join (((Text.lines text).drop k).map (· ++ "\n")) }
  world_eq : ((s.withReadings readings).highlightUntil text mode deadline (σ.clocked 0)).world =
    (s.highlightFirst k text mode σ).world.clocked (Text.lines text).length
  operations_eq : ((s.recorded.withReadings readings).highlightUntil text mode deadline
      ((σ.recording []).clocked 0)).world.world.world.operations =
    (s.recorded.highlightFirst k text mode (σ.recording [])).world.world.operations
  all_early : (∀ i < (Text.lines text).length, readings i < deadline) →
    ((s.withReadings readings).highlightUntil text mode deadline (σ.clocked 0)).seen
        (System.map Clocked.world) = s.highlight text mode σ
  all_late : (∀ i < (Text.lines text).length, deadline ≤ readings i) →
    ((s.withReadings readings).highlightUntil text mode deadline (σ.clocked 0)).value =
        .finished (unhighlighted text) ∧
      ((s.withReadings readings).highlightUntil text mode deadline (σ.clocked 0)).world =
        σ.clocked (Text.lines text).length

/-- A request with a deadline is a request for the lines that are early enough. -/
theorem highlightUntil_spec {s : Segments W C E} (h : s.loader.runtime.CallsReturn)
    {readings : Nat → Nat} (hreadings : Monotone readings) (text : String) (mode : Mode)
    (deadline : Nat) (σ : System W E) :
    DeadlineSpec s readings text mode deadline σ
      (Nat.count (readings · < deadline) (Text.lines text).length) := by
  have hcut := Clocked.cut_count hreadings deadline (Text.lines text).length
  have hcalls : s.recorded.loader.runtime.CallsReturn := s.recorded_lifts.loader.callsReturn h
  refine ⟨hcut.early_iff, ?_, highlightUntil_value h hcut mode σ,
    highlightUntil_world h hcut mode σ, ?_, highlightUntil_early h mode σ,
    highlightUntil_late h mode σ⟩
  · obtain ⟨outcomes, τ, logs, hturns⟩ := exists_inTurn h mode ((Text.lines text).take _) σ
    exact ⟨outcomes, τ, logs, hturns, hturns.runLines_cut hcut {}⟩
  · rw [highlightUntil_world hcalls hcut mode (σ.recording [])]
    rfl

/-- The second of two lines is not started any more. -/
theorem highlightUntil_spec_midway :
    World.echoing.loader.runtime.CallsReturn ∧ Monotone (fun i => 10 * i) ∧
      DeadlineSpec World.echoing (fun i => 10 * i) "a\nb" .automatic 10 (World.unloaded 0) 1 ∧
      ((World.echoing.withReadings fun i => 10 * i).highlightUntil "a\nb" .automatic 10
        ((World.unloaded 0).clocked 0)).value =
          .finished ⟨"<span>a</span>\n b\n", false, "mixed", 1⟩ := by
  have hreadings : Monotone (fun i : Nat => 10 * i) := fun _ _ h => Nat.mul_le_mul_left 10 h
  exact ⟨World.echoing_callsReturn, hreadings,
    highlightUntil_spec World.echoing_callsReturn hreadings "a\nb" .automatic 10
      (World.unloaded 0), rfl⟩

end Segments

end LineHighlight
