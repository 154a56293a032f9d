import LineHighlight.Proofs.Engine.Results

/-! The interpreter of payloads as a library.
Its scripts can be stopped: only a method that is made to run forever asks its handler, and waits
for the moment at which the handler stops it. Everything else is done at once. What is done with
results leaves their realm alone, and is what the language says. -/

namespace LineHighlight.Script

open Execution

/-- What takes no time and asks no handler can be stopped: it is over before. -/
theorem interruptible_at_once {S α : Type} {x : Execution S α} (f : S → Completion S α)
    (hx : ∀ handler now s, x handler now s = some (f s)) : x.Interruptible where
  ends h := .inl ((hx _ _ _).trans ((hx _ _ _).symm.trans h))
  endless h := by cases (hx _ _ _).symm.trans h

theorem Realm.interruptible_eval (source : String) : (eval source).Interruptible := by
  cases hread : Payload.ofText? source with
  | none =>
      refine interruptible_at_once
        (fun r => ⟨.error (Failure.error "variable name expected").message, r, 0⟩)
        fun _ _ r => ?_
      rw [eval, hread]
  | some p =>
      refine interruptible_at_once
        (fun r => ⟨(r.evaluate p).1.mapError Failure.message, (r.evaluate p).2, 0⟩)
        fun _ _ r => ?_
      rw [eval, hread]

theorem Item.interruptible_act (entry : String) (options : Option Value) (text : String)
    (a : Action) : (Item.act entry options text a).Interruptible where
  ends := by
    intro handler now r c h
    unfold Item.act at h ⊢
    cases hperform : r.perform entry options text a with
    | some done =>
        simp only [hperform] at h ⊢
        exact .inl h
    | none =>
        simp only [hperform] at h
        obtain ⟨moment, hmoment, rfl⟩ := Option.map_eq_some_iff.mp h
        refine .inr ⟨⟨_, rfl⟩, ?_⟩
        simp only [InterruptHandler.stops, hmoment, Option.any_some, decide_eq_true_eq]
        omega
  endless := by
    intro handler now r h
    unfold Item.act at h ⊢
    cases hperform : r.perform entry options text a with
    | some done =>
        simp only [hperform] at h
        cases h
    | none =>
        simp only [hperform] at h ⊢
        have hnone : handler.from? = none := Option.map_eq_none_iff.mp h
        exact ⟨rfl, fun moment => by rw [InterruptHandler.stops, hnone]; rfl⟩

theorem Item.interruptible_call (text : String) (options : Option Value) (i : Item) :
    (i.call text options).Interruptible := by
  cases i with
  | method entry cs =>
      simp only [call]
      cases cs.find? (Realm.caseHolds options text) with
      | none => exact interruptible_pure _
      | some c => exact interruptible_act entry options text c.action
  | value | globals | engine | standard => exact interruptible_ofExcept _

theorem library_eval : library.eval = Realm.eval := by
  simp only [library]

/-- Payloads and their methods can be stopped. -/
theorem library_interruptible : library.Interruptible where
  eval source := by
    rw [library_eval]
    exact Realm.interruptible_eval source
  call function _ text _ := Item.interruptible_call text _ function
  parse _ := interruptible_ofExcept _
  results :=
    { field := fun i name =>
        interruptible_at_once (fun r => ⟨(i.get name r).mapError Failure.message, r, 0⟩)
          fun _ _ _ => rfl
      newObject := interruptible_pure _
      setField := fun _ _ _ => interruptible_pure _
      toInt32 := fun _ => interruptible_ofExcept _
      stringify := fun _ => interruptible_ofExcept _
      text := fun _ => interruptible_ofExcept _ }

/-- To read a result and to hand it over changes no realm. -/
theorem library_keepsState :
    library.OnResults fun α (x : Execution Realm α) => x.KeepsState where
  field i name := by
    refine ⟨fun h => ?_⟩
    obtain rfl := Option.some.inj h
    rfl
  newObject := keepsState_ofExcept _
  setField _ _ _ := keepsState_ofExcept _
  toInt32 _ := keepsState_ofExcept _
  stringify _ := keepsState_ofExcept _
  text _ := keepsState_ofExcept _

/-- The primitive value of an item. -/
def Item.plain? (i : Item) : Option Value :=
  i.value?.filter Value.isPlain

theorem Item.plain?_eq_some_iff {i : Item} {p : Value} :
    i.plain? = some p ↔ i = .value p ∧ p.isPlain = true := by
  cases i <;> simp [plain?, value?, Option.filter_eq_some_iff]

/-- No payload changes what all objects inherit, and what the host holds is no part of a realm. -/
def library_objectLaws : library.ObjectLaws where
  plain? := Item.plain?
  Ordinary _ := True
  Made _ o fields := o = .value (.record .undefined fields)
  Later r r' := r = r'
  isPlain h := (Item.plain?_eq_some_iff.mp h).2
  plain_ofBoolean _ := rfl
  plain_ofInt32 _ := rfl
  newObject _ := Execution.gives_pure ⟨rfl, rfl⟩
  made_field ho _ _ _ _ _ _ := ho
  setField := by
    rintro r o fields - rfl v p hv name
    obtain ⟨rfl, -⟩ := Item.plain?_eq_some_iff.mp hv
    exact Execution.gives_pure ⟨rfl, rfl⟩
  toInt32 := by
    intro v p n hv hn r
    obtain ⟨rfl, -⟩ := Item.plain?_eq_some_iff.mp hv
    rw [library_toInt32, hn]
    exact Execution.gives_pure ⟨rfl, rfl⟩
  stringify := by
    rintro r o fields json - rfl hjson
    rw [library_stringify, hjson]
    exact Execution.gives_pure ⟨.ofText json, rfl, rfl⟩
  text := by
    intro v json hv r
    obtain ⟨rfl, -⟩ := Item.plain?_eq_some_iff.mp hv
    have htext : library.text (.value (.ofText json)) = pure json := library_text_ofText json
    rw [htext]
    exact Execution.gives_pure rfl

end LineHighlight.Script
