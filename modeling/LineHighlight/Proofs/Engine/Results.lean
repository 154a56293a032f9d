import LineHighlight.Proofs.Engine.Interruptions
import LineHighlight.Proofs.Script.Strings

/-! Results that leave an interpreter.
A host program makes an object, copies four fields of a result into it, and takes the JSON text of
that object. What a library has to do for this is what the language says of new objects, of
primitive values and of their JSON text. -/

namespace LineHighlight

open Script (Value)
open Text (Unit16)

/-! ## Executions that give a value -/

namespace Execution

variable {S α β : Type}

/-- Whatever its handler says and whenever it begins, the execution gives a value. -/
def Gives (x : Execution S α) (s : S) (P : α → S → Prop) : Prop :=
  ∀ handler now, ∃ a t took, x handler now s = some ⟨.ok a, t, took⟩ ∧ P a t

theorem gives_pure {a : α} {s : S} {P : α → S → Prop} (h : P a s) :
    (pure a : Execution S α).Gives s P :=
  fun _ _ => ⟨a, s, 0, rfl, h⟩

theorem Gives.bind {x : Execution S α} {f : α → Execution S β} {s : S} {P : α → S → Prop}
    {Q : β → S → Prop} (hx : x.Gives s P) (hf : ∀ a t, P a t → (f a).Gives t Q) :
    (x >>= f).Gives s Q := by
  intro handler now
  obtain ⟨a, t, took, hfirst, ha⟩ := hx handler now
  obtain ⟨b, u, more, hrest, hb⟩ := hf a t ha handler (now + took)
  refine ⟨b, u, took + more, ?_, hb⟩
  rw [bind_of_ok hfirst, hrest]
  rfl

theorem Gives.mono {x : Execution S α} {s : S} {P Q : α → S → Prop} (hx : x.Gives s P)
    (h : ∀ a t, P a t → Q a t) : x.Gives s Q := by
  intro handler now
  obtain ⟨a, t, took, hgives, ha⟩ := hx handler now
  exact ⟨a, t, took, hgives, h a t ha⟩

end Execution

/-! ## Objects of the host -/

namespace ScriptLibrary

variable {S V : Type}

/-- What the language says of the objects that a host program makes for itself. No script knows
such an object, so it has the fields that the host has set and those that all objects inherit; what
is said of it holds in states in which no script has changed what all objects inherit. -/
structure ObjectLaws (lib : ScriptLibrary S V) where
  /-- The value, if it is undefined, null, a boolean, a number or a string. -/
  plain? : V → Option Value
  /-- States in which all objects inherit what they inherit from the start, with memory left. -/
  Ordinary : S → Prop
  /-- Objects that the host has made, with the fields that it has set. -/
  Made : S → V → List (String × Value) → Prop
  /-- The host has made and changed objects of its own, and nothing else has happened. -/
  Later : S → S → Prop
  isPlain : ∀ {v p}, plain? v = some p → p.isPlain = true
  plain_ofBoolean : ∀ b, plain? (lib.ofBoolean b) = some (.boolean b)
  plain_ofInt32 : ∀ n, plain? (lib.ofInt32 n) = some (.ofDouble (Binary64.ofInt n.toInt))
  newObject : ∀ {s}, Ordinary s → lib.newObject.Gives s fun o t => Made t o [] ∧ Later s t
  /-- To read a field of whatever value leaves the host's objects alone. -/
  made_field : ∀ {s o fields}, Made s o fields → ∀ {v name handler now c},
    lib.field v name handler now s = some c → Made c.state o fields
  /-- No setter is called. -/
  setField : ∀ {s o fields}, Ordinary s → Made s o fields → ∀ {v p}, plain? v = some p →
    ∀ name, (lib.setField o name v).Gives s fun o t =>
      Made t o (Value.setField name p fields) ∧ Later s t
  /-- No script is run to make an integer of a plain value. -/
  toInt32 : ∀ {v p n}, plain? v = some p → p.toInt32 = .ok n → ∀ s,
    (lib.toInt32 v).Gives s fun m t => m = Int32.ofInt n ∧ t = s
  /-- `JSON.stringify` of an object without a method `toJSON`. -/
  stringify : ∀ {s o fields json}, Ordinary s → Made s o fields →
    (Value.record .undefined fields).toJson = .ok (some json) →
    (lib.stringify o).Gives s fun shown _ =>
      ∃ v, shown = some v ∧ plain? v = some (.ofText json)
  text : ∀ {v json}, plain? v = some (.ofText json) → ∀ s,
    (lib.text v).Gives s fun text _ => text = json

/-- An object whose value and language are strings and whose relevance is a plain value, in the
states in which a script has left it. Whatever else it holds is left open, and so is what scripts
do when its fields are read. -/
structure HoldsStrings {lib : ScriptLibrary S V} (laws : lib.ObjectLaws) (left : S → Prop) (obj : V)
    (us vs : List Unit16) : Prop where
  isObject : lib.object obj = .ok obj
  ordinary : ∀ {s}, left s → laws.Ordinary s
  later : ∀ {s t}, left s → laws.Later s t → left t
  value : ∀ {s}, left s → (lib.field obj "value").Gives s fun v t =>
    laws.plain? v = some (.string us) ∧ left t
  language : ∀ {s}, left s → (lib.field obj "language").Gives s fun v t =>
    laws.plain? v = some (.string vs) ∧ left t
  illegal : ∀ {s}, left s → (lib.field obj "illegal").Gives s fun _ t => left t
  relevance : ∀ {s}, left s → (lib.field obj "relevance").Gives s fun v t =>
    (∃ p, laws.plain? v = some p) ∧ left t

variable {lib : ScriptLibrary S V} {laws : lib.ObjectLaws} {left : S → Prop} {obj : V}
  {us vs : List Unit16} {s : S}

theorem ObjectLaws.read (laws : lib.ObjectLaws) {o v : V} {fields : List (String × Value)}
    {name : String} {P : V → S → Prop} (ho : laws.Made s o fields)
    (h : (lib.field v name).Gives s P) :
    (lib.field v name).Gives s fun w t => P w t ∧ laws.Made t o fields := by
  intro handler now
  obtain ⟨w, t, took, hread, hw⟩ := h handler now
  exact ⟨w, t, took, hread, hw, laws.made_field ho hread⟩

namespace HoldsStrings

theorem set (h : HoldsStrings laws left obj us vs) (hs : left s) {o v : V}
    {fields : List (String × Value)} (ho : laws.Made s o fields) {p : Value}
    (hv : laws.plain? v = some p) (name : String) :
    (lib.setField o name v).Gives s fun o t =>
      left t ∧ laws.Made t o (Value.setField name p fields) := by
  refine (laws.setField (h.ordinary hs) ho hv name).mono ?_
  rintro o t ⟨ho, hlater⟩
  exact ⟨h.later hs hlater, ho⟩

/-- The object that is handed over has the two strings, and two fields of the right types. -/
theorem contractFields (h : HoldsStrings laws left obj us vs) (hs : left s) :
    (lib.contractFields obj).Gives s fun o t => left t ∧ ∃ illegal n, -2 ^ 31 ≤ n ∧ n < 2 ^ 31 ∧
      laws.Made t o (Script.stringFields us vs illegal n) := by
  refine (laws.newObject (h.ordinary hs)).bind ?_
  rintro o s₁ ⟨ho, hlater⟩
  refine (laws.read ho (h.value (h.later hs hlater))).bind ?_
  rintro value s₂ ⟨⟨hvalue, hs⟩, ho⟩
  refine (h.set hs ho hvalue _).bind ?_
  rintro o s₃ ⟨hs, ho⟩
  refine (laws.read ho (h.language hs)).bind ?_
  rintro language s₄ ⟨⟨hlanguage, hs⟩, ho⟩
  refine (h.set hs ho hlanguage _).bind ?_
  rintro o s₅ ⟨hs, ho⟩
  refine (laws.read ho (h.illegal hs)).bind ?_
  rintro illegal s₆ ⟨hs, ho⟩
  refine (laws.read ho (h.relevance hs)).bind ?_
  rintro relevance s₇ ⟨⟨⟨p, hp⟩, hs⟩, ho⟩
  obtain ⟨n, hn⟩ := Value.exists_toInt32_of_plain (laws.isPlain hp)
  obtain ⟨hlow, hhigh⟩ := Value.toInt32_bounds hn
  have hint : (Int32.ofInt n).toInt = n := Int32.toInt_ofInt_of_le hlow hhigh
  refine (laws.toInt32 hp hn s₇).bind ?_
  rintro m s₈ ⟨rfl, rfl⟩
  refine (h.set hs ho (laws.plain_ofBoolean _) _).bind ?_
  rintro o s₉ ⟨hs, ho⟩
  refine (h.set hs ho (laws.plain_ofInt32 _) _).mono ?_
  rintro o t ⟨hs, ho⟩
  rw [hint] at ho
  exact ⟨hs, lib.toBoolean illegal, n, hlow, hhigh, ho⟩

theorem resultText (h : HoldsStrings laws left obj us vs) (hs : left s) :
    (lib.resultText obj).Gives s fun text _ => ∃ illegal n, -2 ^ 31 ≤ n ∧ n < 2 ^ 31 ∧
      ∀ value language,
        text = some (Script.objectText (Script.writtenStrings us vs value language illegal n)) := by
  rw [ScriptLibrary.resultText, h.isObject]
  refine (h.contractFields hs).bind ?_
  rintro o t ⟨ht, illegal, n, hlow, hhigh, ho⟩
  have hn : n.natAbs < 2 ^ 53 := by omega
  have hjson := fun value language => Script.toJson_strings us vs value language illegal hn
  refine (laws.stringify (h.ordinary ht) ho (hjson .null .null)).bind ?_
  rintro shown u ⟨v, rfl, hp⟩
  refine (laws.text hp u).bind fun text _ htext => Execution.gives_pure ?_
  refine ⟨illegal, n, hlow, hhigh, fun value language => ?_⟩
  rw [htext]
  exact Except.ok.inj ((hjson .null .null).symm.trans (hjson value language))

end HoldsStrings

end ScriptLibrary

end LineHighlight
