import LineHighlight.Highlighter.Gate
import LineHighlight.Proofs.Highlighter.Deadline

/-! Requests that take turns at a gate, and requests one after another.
Whatever the order of their steps, everything comes out as if the requests had run one after
another. -/

namespace LineHighlight

/-- What an effect comes to, its log apart. -/
def Effect.unlogged {W α : Type} (e : Effect W α) : α × W :=
  (e.value, e.world)

/-- The engine calls for the lines of a request. -/
def TimedRequest.calls (r : TimedRequest) : List (EngineCall × String) :=
  (Text.lines r.text).map (r.mode.engineCall, ·)

/-- A request that was served, with the readings that it saw. -/
def Served.timed {ι E : Type} (requests : ι → TimedRequest) (e : Served ι E) :
    TimedRequest × List Nat :=
  (requests e.id, e.seen)

/-- What the requests share, as it shows in a part of the world. -/
def Shared.map {ι V W E : Type} (part : V → W) (c : Shared ι V E) : Shared ι W E where
  system := c.system.map part
  gate := c.gate
  order := c.order
  served := c.served

namespace Segments

variable {ι V W C E : Type}

/-! ## One after another -/

def shown (seen : List Nat) (i : Nat) : Nat :=
  seen.getD i 0

/-- A request alone, with the readings that it sees. -/
def alone (s : Segments W C E) (r : TimedRequest) (seen : List Nat) :
    Act (System W E) (RequestRun E HighlightResult) := fun σ =>
  ((s.withReadings (shown seen)).request none r.deadline r.text r.mode (σ.clocked 0)).seen
    (System.map Clocked.world)

def oneByOne (s : Segments W C E) :
    List (TimedRequest × List Nat) → Act (System W E) (List (RequestRun E HighlightResult))
  | [] => return []
  | (r, seen) :: rest => do
    let first ← s.alone r seen
    let others ← s.oneByOne rest
    return first :: others

/-- Without a deadline there is nothing to see. -/
theorem alone_highlight (s : Segments W C E) (text : String) (mode : Mode) (seen : List Nat) :
    s.alone ⟨text, mode, none⟩ seen = s.highlight text mode := by
  funext σ
  have hlift := (s.lifts_withReadings (shown seen) 0).highlight text mode σ
  exact (congrArg (Effect.seen (System.map Clocked.world)) hlift).symm

/-! ## The holder of the gate -/

def Shows (f : Nat → Nat) (seen : List Nat) : Prop :=
  ∀ i now, seen[i]? = some now → f i = now

theorem shows_shown (seen : List Nat) : Shows (shown seen) seen := by
  intro i now h
  simp [shown, List.getD_eq_getElem?_getD, h]

theorem Shows.left {f : Nat → Nat} {r : TimedRequest} {now : Nat} {seen : List Nat}
    (h : Shows f (r.see now seen)) : Shows f seen := by
  intro i shown hshown
  apply h
  unfold TimedRequest.see
  split
  · exact hshown
  · have hi := (List.getElem?_eq_some_iff.mp hshown).1
    rwa [List.getElem?_append_left hi]

/-- Where lines of a request that started from `σ` have brought it. -/
inductive Worked (s : Segments W C E) (r : TimedRequest) (σ : System W E) :
    List Nat → Progress → List String → System W E → Prop
  | start : Worked s r σ [] {} (Text.lines r.text) σ
  | skipped {seen : List Nat} {p : Progress} {line : String} {rest : List String}
      {τ : System W E} {now : Nat} (h : Worked s r σ seen p (line :: rest) τ)
      (hlate : r.isLate now = true) : Worked s r σ (r.see now seen) (p.skip line) rest τ
  | ran {seen : List Nat} {p : Progress} {line : String} {rest : List String}
      {τ : System W E} {now : Nat} {outcome : Except Error EngineResult}
      (h : Worked s r σ seen p (line :: rest) τ) (hearly : r.isLate now = false)
      (hrun : (s.run none r.mode line τ).value = .done outcome) :
      Worked s r σ (r.see now seen) (p.record line outcome) rest (s.run none r.mode line τ).world

/-- How a request that started from `σ` has ended. -/
inductive Ended (s : Segments W C E) (r : TimedRequest) (σ : System W E) :
    List Nat → RequestRun E HighlightResult → System W E → Prop
  | finished {seen : List Nat} {p : Progress} {τ : System W E} (h : s.Worked r σ seen p [] τ) :
      Ended s r σ seen (.finished p.result) τ
  | panicked {seen : List Nat} {p : Progress} {line : String} {rest : List String}
      {τ : System W E} {now : Nat} {reason : String} (h : s.Worked r σ seen p (line :: rest) τ)
      (hearly : r.isLate now = false)
      (hrun : (s.run none r.mode line τ).value = .panicked reason) :
      Ended s r σ (r.see now seen) (.panicked reason) (s.run none r.mode line τ).world

section Alone

variable {s : Segments W C E} {r : TimedRequest} {σ τ : System W E} {seen : List Nat}
  {f : Nat → Nat} {p : Progress}

theorem isLate_shown {now : Nat} (hf : Shows f (r.see now seen)) (σ : System W E) :
    (s.withReadings f).isLate r.deadline (σ.clocked seen.length) =
      ⟨r.isLate now, σ.clocked (r.see now seen).length, []⟩ := by
  unfold TimedRequest.see TimedRequest.isLate at *
  cases hdeadline : r.deadline with
  | none => rfl
  | some deadline =>
      rw [hdeadline] at hf
      have hnow : f seen.length = now := hf seen.length now (by simp)
      rw [isLate_clocked, hnow]
      simp

/-- The lines behind the ones that were worked are run from where these have led. -/
theorem Worked.runLines {rest : List String} (h : s.Worked r σ seen p rest τ)
    (hf : Shows f seen) :
    ((s.withReadings f).runLines none r.deadline r.mode (Text.lines r.text) {}
        (σ.clocked 0)).unlogged =
      ((s.withReadings f).runLines none r.deadline r.mode rest p
        (τ.clocked seen.length)).unlogged := by
  induction h with
  | start => rfl
  | skipped _ hlate ih =>
      rw [ih hf.left]
      simp [Segments.runLines, isLate_shown hf, hlate, Effect.unlogged]
  | ran _ hearly hrun ih =>
      rw [ih hf.left]
      simp [Segments.runLines, isLate_shown hf, hearly, run_clocked, Effect.seen, hrun,
        Effect.unlogged]

theorem Worked.runLines_panicked {line : String} {rest : List String} {now : Nat}
    {reason : String} (h : s.Worked r σ seen p (line :: rest) τ) (hearly : r.isLate now = false)
    (hrun : (s.run none r.mode line τ).value = .panicked reason)
    (hf : Shows f (r.see now seen)) :
    ((s.withReadings f).runLines none r.deadline r.mode (Text.lines r.text) {}
        (σ.clocked 0)).unlogged =
      (.panicked reason, (s.run none r.mode line τ).world.clocked (r.see now seen).length) := by
  rw [h.runLines hf.left]
  simp [Segments.runLines, isLate_shown hf, hearly, run_clocked, Effect.seen, hrun,
    Effect.unlogged]

theorem alone_unlogged {ended : RequestRun E Progress} {taken : Nat}
    (h : ((s.withReadings (shown seen)).runLines none r.deadline r.mode (Text.lines r.text) {}
      (σ.clocked 0)).unlogged = (ended, τ.clocked taken)) :
    (s.alone r seen σ).unlogged = ((conclude ended τ).value, τ) := by
  obtain ⟨hvalue, hworld⟩ := Prod.mk.inj h
  cases ended <;>
    simp [alone, request, conclude, hvalue, hworld, Effect.seen, Effect.unlogged, Act.write] <;> rfl

/-- A request that ran at the gate does what it does alone. -/
theorem Ended.alone {outcome : RequestRun E HighlightResult} (h : s.Ended r σ seen outcome τ) :
    (s.alone r seen σ).unlogged = (outcome, τ) := by
  cases h with
  | finished h => exact alone_unlogged (h.runLines (shows_shown _))
  | panicked h hearly hrun =>
      exact alone_unlogged (h.runLines_panicked hearly hrun (shows_shown _))

end Alone

/-! ## Runs of the gate -/

section Chain

variable {s : Segments W C E} {requests : ι → TimedRequest} {σ τ : System W E}
  {served : List (Served ι E)}

/-- Requests that ended one after another. -/
inductive Chain (s : Segments W C E) (requests : ι → TimedRequest) (σ : System W E) :
    List (Served ι E) → System W E → Prop
  | nil : Chain s requests σ [] σ
  | snoc {served : List (Served ι E)} {τ υ : System W E} {e : Served ι E}
      (h : Chain s requests σ served τ)
      (hended : s.Ended (requests e.id) τ e.seen e.outcome υ) :
      Chain s requests σ (served ++ [e]) υ

theorem oneByOne_append (s : Segments W C E) (first later : List (TimedRequest × List Nat))
    (σ : System W E) :
    (s.oneByOne (first ++ later) σ).unlogged =
      ((s.oneByOne first σ).value ++ (s.oneByOne later (s.oneByOne first σ).world).value,
        (s.oneByOne later (s.oneByOne first σ).world).world) := by
  induction first generalizing σ with
  | nil => simp [oneByOne, Effect.unlogged]
  | cons entry first ih =>
      obtain ⟨hvalue, hworld⟩ := Prod.mk.inj (ih (s.alone entry.1 entry.2 σ).world)
      simp [oneByOne, Effect.unlogged, hvalue, hworld]

theorem Chain.oneByOne (h : s.Chain requests σ served τ) :
    (s.oneByOne (served.map (Served.timed requests)) σ).unlogged =
      (served.map Served.outcome, τ) := by
  induction h with
  | nil => rfl
  | @snoc served τ υ e _ hended ih =>
      obtain ⟨hvalue, hworld⟩ := Prod.mk.inj ih
      obtain ⟨hlast, hend⟩ := Prod.mk.inj hended.alone
      rw [List.map_append, oneByOne_append, hvalue, hworld]
      simp [Segments.oneByOne, Served.timed, hlast, hend]

/-- What is shared after some steps: the requests that were served ran one after another, and
the holder started from where they have led. -/
inductive Orderly (s : Segments W C E) (requests : ι → TimedRequest) (σ : System W E) :
    Shared ι W E → Prop
  | free {served : List (Served ι E)} {τ : System W E} (h : s.Chain requests σ served τ)
      (hnodup : (served.map Served.id).Nodup) :
      Orderly s requests σ ⟨τ, .free, served.map Served.id, served⟩
  | held {served : List (Served ι E)} {τ υ : System W E} {w : Working ι}
      (h : s.Chain requests σ served τ) (hnodup : (served.map Served.id ++ [w.id]).Nodup)
      (hworked : s.Worked (requests w.id) τ w.seen w.before w.rest υ) :
      Orderly s requests σ ⟨υ, .held w, served.map Served.id ++ [w.id], served⟩
  | stuck {served : List (Served ι E)} {τ υ : System W E} {id : ι} {seen : List Nat}
      {p : Progress} {line : String} {rest : List String}
      (h : s.Chain requests σ served τ) (hnodup : (served.map Served.id ++ [id]).Nodup)
      (hworked : s.Worked (requests id) τ seen p (line :: rest) υ) :
      Orderly s requests σ
        ⟨(s.run none (requests id).mode line υ).world, .stuck id, served.map Served.id ++ [id],
          served⟩

theorem Chain.snoc_orderly {υ : System W E} {e : Served ι E} (h : s.Chain requests σ served τ)
    (hnodup : (served.map Served.id ++ [e.id]).Nodup)
    (hended : s.Ended (requests e.id) τ e.seen e.outcome υ) :
    s.Orderly requests σ ⟨υ, .free, served.map Served.id ++ [e.id], served ++ [e]⟩ := by
  have hmap : (served ++ [e]).map Served.id = served.map Served.id ++ [e.id] := List.map_append
  rw [← hmap] at hnodup ⊢
  exact .free (h.snoc hended) hnodup

theorem proceed_orderly {υ : System W E} {w : Working ι} (now : Nat)
    (h : s.Chain requests σ served τ) (hnodup : (served.map Served.id ++ [w.id]).Nodup)
    (hworked : s.Worked (requests w.id) τ w.seen w.before w.rest υ) :
    s.Orderly requests σ (s.proceed (requests w.id) w now
      ⟨υ, .held w, served.map Served.id ++ [w.id], served⟩) := by
  obtain ⟨id, seen, before, rest⟩ := w
  -- A line leaves the requests that were served alone, the end of a request makes it one of them.
  cases rest with
  | nil =>
      exact h.snoc_orderly (e := ⟨id, seen, .finished before.result⟩) hnodup (.finished hworked)
  | cons line rest =>
      unfold proceed
      simp only
      cases hlate : (requests id).isLate now with
      | true => exact .held h hnodup (hworked.skipped hlate)
      | false =>
          cases hrun : (s.run none (requests id).mode line υ).value with
          | done outcome => exact .held h hnodup (hworked.ran hlate hrun)
          | panicked reason =>
              exact h.snoc_orderly (e := ⟨id, (requests id).see now seen, .panicked reason⟩) hnodup
                (.panicked hworked hlate hrun)
          | waiting handle wake => exact .stuck h hnodup hworked

theorem Orderly.order_eq {c : Shared ι W E} (h : s.Orderly requests σ c) :
    c.order = c.served.map Served.id ++ c.gate.holder?.toList := by
  cases h with
  | free => exact (List.append_nil _).symm
  | held => rfl
  | stuck => rfl

theorem Orderly.nodup {c : Shared ι W E} (h : s.Orderly requests σ c) : c.order.Nodup := by
  cases h with
  | free _ hnodup => exact hnodup
  | held _ hnodup => exact hnodup
  | stuck _ hnodup => exact hnodup

theorem Orderly.exists_chain {c : Shared ι W E} (h : s.Orderly requests σ c) :
    ∃ τ, s.Chain requests σ c.served τ ∧ (c.gate = .free → c.system = τ) := by
  cases h with
  | free h => exact ⟨_, h, fun _ => rfl⟩
  | held h => exact ⟨_, h, fun hfree => by cases hfree⟩
  | stuck h => exact ⟨_, h, fun hfree => by cases hfree⟩

variable [DecidableEq ι]

theorem Orderly.step {c : Shared ι W E} (h : s.Orderly requests σ c) (move : ι × Nat) :
    s.Orderly requests σ (s.step requests c move) := by
  cases h with
  | @free served τ h hnodup =>
      simp only [Segments.step]
      split
      · exact .free h hnodup
      · rename_i hnew
        have hnodup : (served.map Served.id ++ [move.1]).Nodup := by
          rw [List.nodup_append]
          simp_all
        exact .held h hnodup .start
  | @held served τ υ w h hnodup hworked =>
      simp only [Segments.step]
      split
      · exact proceed_orderly move.2 h hnodup hworked
      · exact .held h hnodup hworked
  | stuck h hnodup hworked => exact .stuck h hnodup hworked

theorem orderly_interleave (s : Segments W C E) (requests : ι → TimedRequest)
    (moves : List (ι × Nat)) (σ : System W E) :
    s.Orderly requests σ (s.interleave requests moves { system := σ }) := by
  have hrun : ∀ c, s.Orderly requests σ c →
      s.Orderly requests σ (s.interleave requests moves c) := by
    induction moves with
    | nil => exact fun _ h => h
    | cons move moves ih => exact fun _ h => ih _ (h.step move)
  exact hrun _ (.free .nil .nil)

end Chain

/-! ## Progress -/

section Progress

variable {s : Segments W C E} {requests : ι → TimedRequest} {c : Shared ι W E} {w : Working ι}

/-- While calls return, a step of the holder does its next line, or ends the request. -/
theorem proceed_progress (hcalls : s.loader.runtime.CallsReturn) (r : TimedRequest)
    (w : Working ι) (now : Nat) (c : Shared ι W E) :
    (s.proceed r w now c).order = c.order ∧
      (w.rest = [] ∧ (s.proceed r w now c).gate = .free ∧
          (s.proceed r w now c).served.map Served.id = c.served.map Served.id ++ [w.id] ∨
        ∃ w', (s.proceed r w now c).gate = .held w' ∧ w'.id = w.id ∧
          w.rest.length = w'.rest.length + 1) := by
  obtain ⟨id, seen, before, rest⟩ := w
  cases rest with
  | nil => exact ⟨rfl, .inl ⟨rfl, rfl, List.map_append⟩⟩
  | cons line rest =>
      unfold proceed
      simp only
      cases hlate : r.isLate now with
      | true => exact ⟨rfl, .inr ⟨_, rfl, rfl, rfl⟩⟩
      | false =>
          obtain ⟨outcome, hrun⟩ := run_done hcalls r.mode line c.system
          simp only [hrun]
          exact ⟨rfl, .inr ⟨_, rfl, rfl, rfl⟩⟩

variable [DecidableEq ι]

theorem served_step (s : Segments W C E) (requests : ι → TimedRequest) (c : Shared ι W E)
    (move : ι × Nat) : c.served <+: (s.step requests c move).served := by
  unfold step
  cases c.gate with
  | free =>
      simp only
      split <;> exact List.prefix_rfl
  | held w =>
      simp only
      split
      · unfold proceed
        split
        · exact List.prefix_append _ _
        · simp only
          split
          · exact List.prefix_rfl
          · split
            · exact List.prefix_rfl
            · exact List.prefix_append _ _
            · exact List.prefix_rfl
      · exact List.prefix_rfl
  | stuck id => exact List.prefix_rfl

/-- Who was served stays served. -/
theorem served_interleave (s : Segments W C E) (requests : ι → TimedRequest)
    (moves : List (ι × Nat)) (c : Shared ι W E) :
    c.served <+: (s.interleave requests moves c).served := by
  induction moves generalizing c with
  | nil => exact List.prefix_rfl
  | cons move moves ih => exact (s.served_step requests c move).trans (ih _)

/-- The holder is served by as many steps of its own as it has lines and one more, whatever the
others try in between. -/
theorem holder_served (hcalls : s.loader.runtime.CallsReturn) (hheld : c.gate = .held w)
    {moves : List (ι × Nat)} (hmoves : w.rest.length < moves.countP (·.1 = w.id)) :
    w.id ∈ (s.interleave requests moves c).served.map Served.id := by
  induction moves generalizing c w with
  | nil => simp at hmoves
  | cons move moves ih =>
      by_cases hmove : move.1 = w.id
      · have hstep : s.step requests c move = s.proceed (requests w.id) w move.2 c := by
          simp [step, hheld, hmove]
        have hcount : w.rest.length < moves.countP (·.1 = w.id) + 1 := by simpa [hmove] using hmoves
        have hrest : s.interleave requests (move :: moves) c =
            s.interleave requests moves (s.proceed (requests w.id) w move.2 c) := by
          rw [← hstep]
          rfl
        rw [hrest]
        obtain ⟨-, ⟨-, -, hserved⟩ | ⟨w', hheld', hid, hlength⟩⟩ :=
          proceed_progress hcalls (requests w.id) w move.2 c
        · refine ((s.served_interleave requests moves _).map Served.id).subset ?_
          simp [hserved]
        · have hserved := ih hheld' (by rw [hid]; omega)
          rwa [hid] at hserved
      · have hstep : s.step requests c move = c := by
          simp [step, hheld, Ne.symm hmove]
        have hcount : w.rest.length < moves.countP (·.1 = w.id) := by simpa [hmove] using hmoves
        have hrest : s.interleave requests (move :: moves) c = s.interleave requests moves c :=
          congrArg (s.interleave requests moves) hstep
        rw [hrest]
        exact ih hheld hcount

theorem interleave_append (s : Segments W C E) (requests : ι → TimedRequest)
    (first later : List (ι × Nat)) (c : Shared ι W E) :
    s.interleave requests (first ++ later) c =
      s.interleave requests later (s.interleave requests first c) :=
  List.foldl_append

/-- While calls return, the gate can become free again. -/
theorem exists_free (requests : ι → TimedRequest) (hcalls : s.loader.runtime.CallsReturn)
    (hstuck : ∀ id, c.gate ≠ .stuck id) :
    ∃ moves, (s.interleave requests moves c).gate = .free ∧
      (s.interleave requests moves c).order = c.order := by
  cases hgate : c.gate with
  | free => exact ⟨[], hgate, rfl⟩
  | stuck id => exact absurd hgate (hstuck id)
  | held w =>
      -- The holder makes steps of its own, on its lines that are left.
      obtain ⟨n, hn⟩ : ∃ n, w.rest.length = n := ⟨_, rfl⟩
      clear hstuck
      induction n generalizing c w with
      | zero =>
          obtain ⟨horder, ⟨-, hfree, -⟩ | ⟨w', -, -, hlength⟩⟩ :=
            proceed_progress hcalls (requests w.id) w 0 c
          · refine ⟨[(w.id, 0)], ?_, ?_⟩ <;> simpa [interleave, step, hgate]
          · omega
      | succ n ih =>
          obtain ⟨horder, ⟨hnil, -, -⟩ | ⟨w', hheld, -, hlength⟩⟩ :=
            proceed_progress hcalls (requests w.id) w 0 c
          · simp [hnil] at hn
          · obtain ⟨moves, hfree, hsame⟩ := ih w' hheld (by omega)
            refine ⟨(w.id, 0) :: moves, ?_, ?_⟩
            · simpa [interleave, step, hgate] using hfree
            · simpa [interleave, step, hgate, horder] using hsame

theorem step_not_stuck (requests : ι → TimedRequest) (hcalls : s.loader.runtime.CallsReturn)
    (move : ι × Nat) (h : ∀ id, c.gate ≠ .stuck id) :
    ∀ id, (s.step requests c move).gate ≠ .stuck id := by
  intro id
  unfold step
  cases hgate : c.gate with
  | free =>
      simp only
      split <;> simp [hgate]
  | held w =>
      simp only
      split
      · obtain ⟨-, ⟨-, hfree, -⟩ | ⟨w', hheld, -⟩⟩ :=
          proceed_progress hcalls (requests w.id) w move.2 c
        · simp [hfree]
        · simp [hheld]
      · simp [hgate]
  | stuck id => exact absurd hgate (h id)

theorem interleave_not_stuck (requests : ι → TimedRequest)
    (hcalls : s.loader.runtime.CallsReturn) (moves : List (ι × Nat))
    (h : ∀ id, c.gate ≠ .stuck id) : ∀ id, (s.interleave requests moves c).gate ≠ .stuck id := by
  induction moves generalizing c with
  | nil => exact h
  | cons move moves ih => exact ih (step_not_stuck requests hcalls move h)

/-- While calls return, any further requests can be served, in any order. -/
theorem exists_schedule (requests : ι → TimedRequest) (hcalls : s.loader.runtime.CallsReturn)
    (hstuck : ∀ id, c.gate ≠ .stuck id) {ids : List ι} (hids : (c.order ++ ids).Nodup) :
    ∃ moves, (s.interleave requests moves c).gate = .free ∧
      (s.interleave requests moves c).order = c.order ++ ids := by
  induction ids generalizing c with
  | nil =>
      obtain ⟨moves, hfree, horder⟩ := exists_free requests hcalls hstuck
      exact ⟨moves, hfree, by rw [horder, List.append_nil]⟩
  | cons id ids ih =>
      obtain ⟨moves, hfree, horder⟩ := exists_free requests hcalls hstuck
      have hnew : id ∉ c.order := by
        intro hmem
        exact (List.nodup_append.mp hids).2.2 id hmem id List.mem_cons_self rfl
      have htaken : (s.step requests (s.interleave requests moves c) (id, 0)).order =
          c.order ++ [id] := by
        simp [step, hfree, hnew, horder]
      have hstuck' := step_not_stuck requests hcalls (id, 0)
        (interleave_not_stuck requests hcalls moves hstuck)
      obtain ⟨later, hfree', horder'⟩ := ih hstuck' (by rw [htaken]; simpa using hids)
      refine ⟨moves ++ (id, 0) :: later, ?_, ?_⟩
      · rw [interleave_append]
        exact hfree'
      · rw [interleave_append]
        refine Eq.trans horder' ?_
        rw [htaken, List.append_assoc]
        rfl

end Progress

end Segments

end LineHighlight
