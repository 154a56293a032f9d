import LineHighlight.Json.Typed
import LineHighlight.Proofs.Decode.Steps
import Mathlib.Data.List.Nodup
import Mathlib.Logic.Unique

/-! Records that are decoded from objects.
Fields are found by their names, so if no key comes twice, an object decodes as soon as every
field that a record knows does. -/

namespace LineHighlight.Json

variable {α : Type}

/-! ## Single values -/

theorem text_eq_ok_iff {v : Json} {s : String} : text v = .ok s ↔ v = .string s := by
  cases v <;> simp [text, textAs]

theorem bool_eq_ok_iff {v : Json} {b : Bool} : bool v = .ok b ↔ v = .boolean b := by
  cases v <;> simp [bool]

theorem unsigned_eq_ok_iff {expected : String} {limit n : Nat} {v : Json} :
    unsigned expected limit v = .ok n ↔ v = .nat n ∧ n < limit := by
  constructor
  · intro h
    unfold unsigned at h
    split at h
    case h_1 m =>
      split at h
      case isTrue hm =>
        obtain rfl := Except.ok.inj h
        rw [nat, Int.toNat_of_nonneg hm.1]
        exact ⟨rfl, by omega⟩
      case isFalse => cases h
    case h_2 => cases h
  · rintro ⟨rfl, hn⟩
    have hrange : (0 : Int) ≤ n ∧ (n : Int) < limit := by omega
    rw [nat, unsigned, if_pos hrange, Int.toNat_natCast]

theorem checks_eq_ok_iff {d : Decoder α} {v : Json} : checks d v = .ok () ↔ ∃ a, d v = .ok a := by
  simp [checks, map_eq_ok_iff]

/-! ## Fields -/

variable {fields : List (String × Json)}

/-- A field that must be there. -/
theorem Source.get_eq_ok_iff {name : String} {place : Nat} {d : Decoder α} {a : α} :
    (Source.named fields).get name place d none = .ok a ↔
      ∃ v, lookup name fields = some v ∧ d v = .ok a := by
  cases hfield : lookup name fields with
  | none => simp [get, hfield]
  | some v => simp [get, hfield]

theorem checkFields_eq_ok_iff {known : List (String × Decoder Unit)} :
    checkFields known fields = .ok () ↔
      ∀ field ∈ fields, ∀ p, known.find? (fun p => p.1 == field.1) = some p →
        p.2 field.2 = .ok () := by
  induction fields with
  | nil => simp [checkFields]
  | cons field fields ih =>
      rw [List.forall_mem_cons, ← ih, checkFields]
      cases known.find? (fun p => p.1 == field.1) with
      | none => simp
      | some p => simp [bind_eq_ok_iff, Unique.exists_iff]

/-- A look-up finds the value that all fields of its name have. -/
theorem lookup_eq_some_of_unique {key : String} {v : Json} (hmem : (key, v) ∈ fields)
    (hunique : ∀ w, (key, w) ∈ fields → w = v) : lookup key fields = some v := by
  induction fields with
  | nil => cases hmem
  | cons field fields ih =>
      obtain ⟨name, w⟩ := field
      by_cases hname : name = key
      · subst hname
        rw [lookup, if_pos rfl, hunique w List.mem_cons_self]
      · have hrest : (key, v) ∈ fields := by
          refine (List.mem_cons.mp hmem).resolve_left fun heq => hname ?_
          exact (congrArg Prod.fst heq).symm
        rw [lookup, if_neg hname]
        exact ih hrest fun w' hw' => hunique w' (List.mem_cons_of_mem _ hw')

theorem lookup_eq_some_of_mem {key : String} {v : Json}
    (hkeys : (fields.map Prod.fst).Nodup) (h : (key, v) ∈ fields) : lookup key fields = some v := by
  refine lookup_eq_some_of_unique h fun w hw => ?_
  exact congrArg Prod.snd (List.inj_on_of_nodup_map hkeys hw h rfl)

/-- Without repeated keys each check sees what is found under its name. -/
theorem checkFields_of_lookup {known : List (String × Decoder Unit)}
    (hkeys : (fields.map Prod.fst).Nodup)
    (h : ∀ p ∈ known, ∀ v, lookup p.1 fields = some v → p.2 v = .ok ()) :
    checkFields known fields = .ok () := by
  rw [checkFields_eq_ok_iff]
  rintro ⟨name, v⟩ hfield p hp
  have hname : p.1 = name := by simpa using List.find?_some hp
  apply h p (List.mem_of_find?_eq_some hp)
  rw [hname]
  exact lookup_eq_some_of_mem hkeys hfield

end LineHighlight.Json
