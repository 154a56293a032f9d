import LineHighlight.Proofs.Highlighter.Gate
import LineHighlight.Proofs.Highlighter.Growth
import Mathlib.Data.List.Forall2

/-! The record of requests that take turns at a gate: one block for each, in the order in which
they took it. -/

namespace LineHighlight

namespace Segments

variable {ι V W C E : Type}

/-! ## The record -/

section Record

variable {s : Segments W C E} {requests : ι → TimedRequest} {r : TimedRequest}
  {σ τ : System (Recorded W C E) E} {seen : List Nat} {p : Progress}

/-- The calls of the lines that were run are recorded in the order of the lines. -/
theorem Worked.grew {rest : List String} (h : s.recorded.Worked r σ seen p rest τ) :
    ∃ first block, first ++ rest = Text.lines r.text ∧
      σ.Grew τ (first.map (r.mode.engineCall, ·)) block := by
  induction h with
  | start => exact ⟨[], [], rfl, .refl σ⟩
  | @skipped seen p line rest τ now h hlate ih =>
      obtain ⟨first, block, hlines, hgrew⟩ := ih
      refine ⟨first ++ [line], block, by simpa using hlines, hgrew.mono ?_⟩
      rw [List.map_append]
      exact List.sublist_append_left _ _
  | @ran seen p line rest τ now outcome h hearly hrun ih =>
      obtain ⟨first, block, hlines, hgrew⟩ := ih
      obtain ⟨added, hadded⟩ := s.run_grew r.mode line τ
      refine ⟨first ++ [line], block ++ added, by simpa using hlines, ?_⟩
      rw [List.map_append]
      exact hgrew.trans hadded

theorem Worked.grew_run {line : String} {rest : List String}
    (h : s.recorded.Worked r σ seen p (line :: rest) τ) :
    ∃ block, σ.Grew (s.recorded.run none r.mode line τ).world r.calls block := by
  obtain ⟨first, block, hlines, hgrew⟩ := h.grew
  obtain ⟨added, hadded⟩ := s.run_grew r.mode line τ
  refine ⟨block ++ added, (hgrew.trans hadded).mono ?_⟩
  have hcalls : r.calls = first.map (r.mode.engineCall, ·) ++ [(r.mode.engineCall, line)] ++
      rest.map (r.mode.engineCall, ·) := by
    simp [TimedRequest.calls, ← hlines]
  rw [hcalls]
  exact List.sublist_append_left _ _

theorem Ended.grew {outcome : RequestRun E HighlightResult}
    (h : s.recorded.Ended r σ seen outcome τ) : ∃ block, σ.Grew τ r.calls block := by
  cases h with
  | finished h =>
      obtain ⟨first, block, hlines, hgrew⟩ := h.grew
      rw [List.append_nil] at hlines
      rw [TimedRequest.calls, ← hlines]
      exact ⟨block, hgrew⟩
  | panicked h => exact h.grew_run

/-- Blocks of operations, one for each request, with calls of its lines in their order. -/
def Blocks (requests : ι → TimedRequest) (order : List ι)
    (blocks : List (List (Operation C E))) : Prop :=
  List.Forall₂ (fun id block => (block.filterMap Operation.call?).Sublist (requests id).calls)
    order blocks

theorem Blocks.snoc {order : List ι} {blocks : List (List (Operation C E))} {id : ι}
    {block : List (Operation C E)} (h : Blocks requests order blocks)
    (hgrew : σ.Grew τ (requests id).calls block) :
    Blocks requests (order ++ [id]) (blocks ++ [block]) :=
  List.rel_append h (.cons hgrew.calls_sublist .nil)

def GrewBy (requests : ι → TimedRequest) (order : List ι) (σ τ : System (Recorded W C E) E) :
    Prop :=
  ∃ calls blocks, Blocks requests order blocks ∧ σ.Grew τ calls blocks.flatten

theorem GrewBy.snoc {order : List ι} {id : ι} {υ : System (Recorded W C E) E}
    {block : List (Operation C E)} (h : GrewBy requests order σ τ)
    (hgrew : τ.Grew υ (requests id).calls block) : GrewBy requests (order ++ [id]) σ υ := by
  obtain ⟨calls, blocks, hblocks, hbefore⟩ := h
  refine ⟨calls ++ (requests id).calls, blocks ++ [block], hblocks.snoc hgrew, ?_⟩
  rw [List.flatten_append, List.flatten_singleton]
  exact hbefore.trans hgrew

theorem Chain.grewBy {served : List (Served ι E)} (h : s.recorded.Chain requests σ served τ) :
    GrewBy requests (served.map Served.id) σ τ := by
  induction h with
  | nil => exact ⟨[], [], .nil, .refl σ⟩
  | snoc _ hended ih =>
      obtain ⟨block, hgrew⟩ := hended.grew
      rw [List.map_append]
      exact ih.snoc hgrew

theorem Orderly.grewBy {c : Shared ι (Recorded W C E) E} (h : s.recorded.Orderly requests σ c) :
    GrewBy requests c.order σ c.system := by
  cases h with
  | free h => exact h.grewBy
  | @held served τ υ w h _ hworked =>
      obtain ⟨first, block, hlines, hgrew⟩ := hworked.grew
      refine h.grewBy.snoc (hgrew.mono ?_)
      rw [TimedRequest.calls, ← hlines, List.map_append]
      exact List.sublist_append_left _ _
  | stuck h _ hworked =>
      obtain ⟨block, hgrew⟩ := hworked.grew_run
      exact h.grewBy.snoc hgrew

end Record

/-! ## Recorded runs -/

section Recorded

variable {part : V → W} {s : Segments V C E} {t : Segments W C E} {requests : ι → TimedRequest}

theorem Lifts.proceed (h : s.Lifts part t) (r : TimedRequest) (w : Working ι) (now : Nat)
    (c : Shared ι V E) :
    (s.proceed r w now c).map part = t.proceed r w now (c.map part) := by
  obtain ⟨id, seen, before, rest⟩ := w
  cases rest with
  | nil => rfl
  | cons line rest =>
      have hvalue := (h.run r.mode line).value_eq c.system
      have hworld := (h.run r.mode line).world_eq c.system
      simp only [Segments.proceed]
      split
      · rfl
      · simp only [Shared.map, ← hvalue, ← hworld]
        split <;> rfl

variable [DecidableEq ι]

theorem Lifts.step (h : s.Lifts part t) (c : Shared ι V E) (move : ι × Nat) :
    (s.step requests c move).map part = t.step requests (c.map part) move := by
  obtain ⟨system, gate, order, served⟩ := c
  cases gate with
  | free => by_cases hmem : move.1 ∈ order <;> simp [Segments.step, Shared.map, hmem]
  | held w =>
      simp only [Segments.step, Shared.map]
      split
      · exact h.proceed _ _ _ _
      · rfl
  | stuck id => rfl

theorem Lifts.interleave (h : s.Lifts part t) (moves : List (ι × Nat)) (c : Shared ι V E) :
    (s.interleave requests moves c).map part = t.interleave requests moves (c.map part) := by
  induction moves generalizing c with
  | nil => rfl
  | cons move moves ih => exact (ih _).trans (by rw [h.step]; rfl)

end Recorded

/-! ## What requests can rely on -/

section Spec

variable [DecidableEq ι] {s : Segments W C E} {requests : ι → TimedRequest} {σ : System W E}

/-- What holds after any steps of any requests. -/
structure GateSpec (s : Segments W C E) (requests : ι → TimedRequest) (moves : List (ι × Nat))
    (σ : System W E) (c : Shared ι W E) (recorded : Shared ι (Recorded W C E) E) : Prop where
  nodup : c.order.Nodup
  /-- All that took the gate were served, in this order, apart from the holder. -/
  order_eq : c.order = c.served.map Served.id ++ c.gate.holder?.toList
  /-- The results are those of the requests one after another, with the readings they saw. -/
  results_eq : (s.oneByOne (c.served.map (Served.timed requests)) σ).value =
    c.served.map Served.outcome
  system_eq : c.gate = .free →
    (s.oneByOne (c.served.map (Served.timed requests)) σ).world = c.system
  recorded_eq : recorded.map Recorded.world = c
  /-- The record is that of the requests one after another. -/
  record_eq : c.gate = .free →
    (s.recorded.oneByOne (c.served.map (Served.timed requests)) (σ.recording [])).world =
      recorded.system
  blocks : ∃ blocks, Blocks requests c.order blocks ∧
    recorded.system.world.operations = blocks.flatten
  engines : recorded.system.world.operations.countP Operation.givesEngine ≤ 1
  /-- While calls return, the holder is served by one step for each line that it has left and one
  more, whatever the others try in between. -/
  progress : s.loader.runtime.CallsReturn → ∀ w, c.gate = .held w → ∀ later : List (ι × Nat),
    w.rest.length < later.countP (·.1 = w.id) →
    w.id ∈ (s.interleave requests later c).served.map Served.id
  /-- While calls return, all requests that have not taken the gate can be served, in any order. -/
  complete : s.loader.runtime.CallsReturn → ∀ ids, (c.order ++ ids).Nodup →
    ∃ later, (s.interleave requests later c).gate = .free ∧
      (s.interleave requests later c).order = c.order ++ ids

theorem gate_spec (s : Segments W C E) (requests : ι → TimedRequest) (moves : List (ι × Nat))
    (σ : System W E) :
    GateSpec s requests moves σ (s.interleave requests moves { system := σ })
      (s.recorded.interleave requests moves { system := σ.recording [] }) := by
  have horderly := s.orderly_interleave requests moves σ
  have hrecorded := s.recorded.orderly_interleave requests moves (σ.recording [])
  have hsame : (s.recorded.interleave requests moves { system := σ.recording [] }).map
      Recorded.world = s.interleave requests moves { system := σ } :=
    s.recorded_lifts.interleave moves _
  have hserved := congrArg Shared.served hsame
  have hgate := congrArg Shared.gate hsame
  obtain ⟨τ, hchain, hfree⟩ := horderly.exists_chain
  obtain ⟨υ, hchain', hfree'⟩ := hrecorded.exists_chain
  obtain ⟨hresults, hworld⟩ := Prod.mk.inj hchain.oneByOne
  obtain ⟨-, hworld'⟩ := Prod.mk.inj hchain'.oneByOne
  obtain ⟨calls, blocks, hblocks, hgrew⟩ := hrecorded.grewBy
  refine ⟨horderly.nodup, horderly.order_eq, hresults, ?_, hsame, ?_, ⟨blocks, ?_, ?_⟩, ?_,
    fun hcalls _ hheld _ => holder_served hcalls hheld, fun hcalls _ =>
      exists_schedule requests hcalls (interleave_not_stuck requests hcalls moves (by simp))⟩
  · intro h
    rw [hworld, hfree h]
  · intro h
    rw [← hserved]
    exact hworld'.trans (hfree' (hgate.trans h)).symm
  · rw [← congrArg Shared.order hsame]
    exact hblocks
  · exact hgrew.operations_eq
  · rw [hgrew.operations_eq]
    exact hgrew.engines_le_one

/-- The second request waits until the first one has given the gate back, and then makes the
engine that the first one did not get. -/
theorem gate_spec_waiting :
    let requests : Bool → TimedRequest := fun second =>
      if second then ⟨"c", .automatic, none⟩ else ⟨"a\nb", .automatic, some 3⟩
    let moves := [(false, 0), (true, 0), (false, 1), (true, 2), (false, 3), (false, 4), (true, 5),
      (true, 6), (true, 7)]
    let start := World.unloaded 1
    let ended := World.echoing.interleave requests moves { system := start }
    GateSpec World.echoing requests moves start ended
        (World.echoing.recorded.interleave requests moves { system := start.recording [] }) ∧
      ended.served.map (fun e => (e.id, e.seen)) = [(false, [1, 3]), (true, [])] ∧
      ended.served.map Served.outcome =
        [.finished ⟨"a\nb\n", false, "mixed", 0⟩,
          .finished ⟨"<span>c</span>\n ", false, "mixed", 1⟩] :=
  ⟨gate_spec World.echoing _ _ (World.unloaded 1), rfl, rfl⟩

end Spec

end Segments

end LineHighlight
