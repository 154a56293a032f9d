import LineHighlight.Proofs.Engine.Projection

/-! Marks that panics have left on locks.
A marked lock is taken as any other, so a mark makes no difference to what is done under the lock:
in systems that differ in marks alone every action does the same, and leaves systems that differ in
marks alone. -/

namespace LineHighlight

/-! ## What does not show -/

namespace Act

variable {V W α β : Type} {part : V → W} {x y : Act V α}

/-- From worlds that show the same in a part, the actions do the same, as far as it shows there. -/
def Agree (part : V → W) (x y : Act V α) : Prop :=
  ∀ v w, part v = part w → (x v).seen part = (y w).seen part

theorem Agree.value_eq (h : Agree part x y) {v w : V} (hvw : part v = part w) :
    (x v).value = (y w).value :=
  (congrArg Effect.value (h v w hvw) :)

theorem Agree.world_eq (h : Agree part x y) {v w : V} (hvw : part v = part w) :
    part (x v).world = part (y w).world :=
  congrArg Effect.world (h v w hvw)

theorem Agree.logs_eq (h : Agree part x y) {v w : V} (hvw : part v = part w) :
    (x v).logs = (y w).logs :=
  (congrArg Effect.logs (h v w hvw) :)

theorem agree_of_world {f g : V → V} {a : α} {logs : List LogEntry}
    (h : ∀ v w, part v = part w → part (f v) = part (g w)) :
    Agree part (fun v => ⟨a, f v, logs⟩) (fun w => ⟨a, g w, logs⟩) := fun v w hvw => by
  simp [Effect.seen, h v w hvw]

theorem agree_pure (a : α) : Agree part (Pure.pure a) (Pure.pure a) :=
  agree_of_world fun _ _ hvw => hvw

theorem agree_write (entry : LogEntry) : Agree part (write entry) (write entry) :=
  agree_of_world fun _ _ hvw => hvw

theorem agree_log (level : LogLevel) (message : String) :
    Agree part (log level message) (log level message) :=
  agree_write _

theorem agree_modify {f g : V → V} (h : ∀ v w, part v = part w → part (f v) = part (g w)) :
    Agree part (modify f) (modify g) :=
  agree_of_world h

theorem Agree.bind {f g : α → Act V β} (hx : Agree part x y)
    (hf : ∀ a, Agree part (f a) (g a)) : Agree part (x >>= f) (y >>= g) := by
  intro v w hvw
  have hrest := hf (y w).value _ _ (hx.world_eq hvw)
  simp only [Effect.seen, Effect.mk.injEq] at hrest
  simp only [Effect.seen, bind_apply, hx.value_eq hvw, hx.logs_eq hvw, hrest]

/-- Whoever looks at the world may see what does not show in the part. -/
theorem agree_get {f g : V → Act V α} (h : ∀ v w, part v = part w → Agree part (f v) (g w)) :
    Agree part (get >>= f) (get >>= g) :=
  fun v w hvw => h v w hvw v w hvw

theorem agree_id (x : Act V α) : Agree id x x := by
  rintro v w rfl
  rfl

end Act

/-! ## Locks -/

namespace Lock

variable {l m : Lock}

/-- The lock without a mark. -/
def unmarked (l : Lock) : Lock :=
  { l with isPoisoned := false }

theorem unmarked_eq_iff : l.unmarked = m.unmarked ↔ l.isHeld = m.isHeld := by
  simp [unmarked]

theorem unmarked_after (h : l.unmarked = m.unmarked) (progress : Hold) :
    (l.after progress).unmarked = (m.after progress).unmarked := by
  rw [unmarked_eq_iff] at h ⊢
  cases progress with
  | ended => exact h
  | panicked => exact h
  | pending => simp only [after, take]; split <;> split <;> rfl

theorem unmarked_taken (h : l.unmarked = m.unmarked) :
    (taken l.take).unmarked = (taken m.take).unmarked :=
  unmarked_after h .pending

theorem unmarked_release : l.release.unmarked = m.release.unmarked := rfl

end Lock

/-- The state of a loader without marks on its locks. -/
def LoaderState.unmarked {E : Type} (s : LoaderState E) : LoaderState E :=
  { s with lock := s.lock.unmarked, engineLock := s.engineLock.unmarked }

theorem LoaderState.unmarked_eq_iff {E : Type} {s t : LoaderState E} :
    s.unmarked = t.unmarked ↔ s.slot = t.slot ∧ s.attempts = t.attempts ∧
      s.lock.unmarked = t.lock.unmarked ∧ s.engineLock.unmarked = t.engineLock.unmarked := by
  simp [unmarked]

/-! ## Systems -/

namespace System

variable {V W E α : Type} {part : V → W}

/-- A system without marks on its locks, as it shows in a part of its world. -/
def unmarked (part : V → W) (σ : System V E) : System W E where
  loader := σ.loader.unmarked
  world := part σ.world

theorem unmarked_eq_iff {σ τ : System V E} :
    σ.unmarked part = τ.unmarked part ↔
      σ.loader.unmarked = τ.loader.unmarked ∧ part σ.world = part τ.world := by
  simp [unmarked]

theorem agree_inWorld {x y : Act V α} (h : Act.Agree part x y) :
    Act.Agree (unmarked (E := E) part) (inWorld x) (inWorld y) := by
  intro σ τ hστ
  obtain ⟨hloader, hworld⟩ := unmarked_eq_iff.mp hστ
  have hsame := h σ.world τ.world hworld
  simp only [Effect.seen, Effect.mk.injEq] at hsame
  simp only [inWorld, Act.on, Effect.seen, unmarked, hsame, hloader]

theorem agree_modifyLoader {f g : LoaderState E → LoaderState E}
    (h : ∀ s t : LoaderState E, s.unmarked = t.unmarked → (f s).unmarked = (g t).unmarked) :
    Act.Agree (unmarked (V := V) part) (modifyLoader f) (modifyLoader g) :=
  Act.agree_modify fun σ τ hστ => by
    obtain ⟨hloader, hworld⟩ := unmarked_eq_iff.mp hστ
    exact unmarked_eq_iff.mpr ⟨h _ _ hloader, hworld⟩

theorem agree_withLoader {x y : Act (System V E) α} (h : Act.Agree (unmarked part) x y) :
    Act.Agree (unmarked part) (withLoader x) (withLoader y) := by
  refine Act.agree_get fun σ τ hστ => ?_
  obtain ⟨hloader, -⟩ := unmarked_eq_iff.mp hστ
  obtain ⟨-, -, hlock, -⟩ := LoaderState.unmarked_eq_iff.mp hloader
  refine (agree_modifyLoader fun s t hst => ?_).bind fun _ => h.bind fun a =>
    (agree_modifyLoader fun s t hst => ?_).bind fun _ => Act.agree_pure a
  · obtain ⟨hslot, hattempts, htaken, hengine⟩ := LoaderState.unmarked_eq_iff.mp hst
    exact LoaderState.unmarked_eq_iff.mpr
      ⟨hslot, hattempts, Lock.unmarked_taken htaken, hengine⟩
  · obtain ⟨hslot, hattempts, -, hengine⟩ := LoaderState.unmarked_eq_iff.mp hst
    exact LoaderState.unmarked_eq_iff.mpr
      ⟨hslot, hattempts, Lock.unmarked_after hlock _, hengine⟩

theorem agree_withEngine {x y : Act (System V E) α} (progress : α → Hold)
    (h : Act.Agree (unmarked part) x y) :
    Act.Agree (unmarked part) (withEngine progress x) (withEngine progress y) := by
  refine Act.agree_get fun σ τ hστ => ?_
  obtain ⟨hloader, -⟩ := unmarked_eq_iff.mp hστ
  obtain ⟨-, -, -, hengine⟩ := LoaderState.unmarked_eq_iff.mp hloader
  refine (agree_modifyLoader fun s t hst => ?_).bind fun _ => h.bind fun a =>
    (agree_modifyLoader fun s t hst => ?_).bind fun _ => Act.agree_pure a
  · obtain ⟨hslot, hattempts, hlock, htaken⟩ := LoaderState.unmarked_eq_iff.mp hst
    exact LoaderState.unmarked_eq_iff.mpr
      ⟨hslot, hattempts, hlock, Lock.unmarked_taken htaken⟩
  · obtain ⟨hslot, hattempts, hlock, -⟩ := LoaderState.unmarked_eq_iff.mp hst
    exact LoaderState.unmarked_eq_iff.mpr
      ⟨hslot, hattempts, hlock, Lock.unmarked_after hengine _⟩

end System

/-! ## Loaders -/

namespace Loader

variable {V W C E : Type} {part : V → W} {l : Loader V C E}

theorem agree_attempt (h : Act.Agree part l.setUp l.setUp) (number : Nat) :
    Act.Agree (System.unmarked part) (l.attempt number) (l.attempt number) := by
  refine (System.agree_modifyLoader fun s t hst => ?_).bind fun _ =>
    (Act.agree_log _ _).bind fun _ => (System.agree_inWorld h).bind fun outcome => ?_
  · obtain ⟨hslot, -, hlocks⟩ := LoaderState.unmarked_eq_iff.mp hst
    exact LoaderState.unmarked_eq_iff.mpr ⟨hslot, rfl, hlocks⟩
  · cases outcome with
    | ok engine =>
        refine (Act.agree_log _ _).bind fun _ =>
          (System.agree_modifyLoader fun s t hst => ?_).bind fun _ => Act.agree_pure _
        exact LoaderState.unmarked_eq_iff.mpr ⟨rfl, (LoaderState.unmarked_eq_iff.mp hst).2⟩
    | error e =>
        refine (Act.agree_log _ _).bind fun _ =>
          (System.agree_modifyLoader fun s t hst => ?_).bind fun _ => Act.agree_pure _
        exact LoaderState.unmarked_eq_iff.mpr ⟨rfl, (LoaderState.unmarked_eq_iff.mp hst).2⟩

theorem agree_acquire (h : Act.Agree part l.setUp l.setUp) :
    Act.Agree (System.unmarked part) l.acquire l.acquire := by
  refine System.agree_withLoader (Act.agree_get fun σ τ hστ => ?_)
  obtain ⟨hloader, -⟩ := System.unmarked_eq_iff.mp hστ
  obtain ⟨hslot, hattempts, -, -⟩ := LoaderState.unmarked_eq_iff.mp hloader
  rw [hslot, hattempts]
  cases τ.loader.slot with
  | ready handle => exact Act.agree_pure _
  | failed reason => exact Act.agree_pure _
  | empty => exact agree_attempt h _

end Loader

end LineHighlight
