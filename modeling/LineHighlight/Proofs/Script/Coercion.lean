import LineHighlight.Proofs.Number.Numerals
import LineHighlight.Proofs.Text.Utf16
import LineHighlight.Result
import LineHighlight.Script.Convert

/-! JSON values as script values, and their coercions.
Truth is the same on both sides. A relevance is the same unless it is a text that the two readers
of numerals read differently, or holds other values. -/

namespace LineHighlight

/-- A relevance that scripts and the decoder convert in the same way. -/
def Json.ReadsAlike : Json → Prop
  | .null | .boolean _ | .number _ => True
  | .string s => Numeral.ReadsAlike s
  | .array _ | .object _ => False

namespace Script.Value

/-- What a script reads where a JSON value may be missing. -/
def ofPlain? (v : Option Json) : Value :=
  (v.map ofPlain).getD .undefined

theorem settle_ofPlain? (v : Option Json) : (ofPlain? v).settle = .ok (ofPlain? v) := by
  cases v with
  | none => rfl
  | some v => cases v <;> rfl

theorem lookup_ofPlainFields (name : String) (fields : List (String × Json)) :
    lookup name (ofPlainFields fields) = (Json.lookup name fields).map ofPlain := by
  induction fields with
  | nil => rfl
  | cons f rest ih =>
      obtain ⟨k, v⟩ := f
      simp only [ofPlainFields, lookup, Json.lookup]
      split
      · rfl
      · exact ih

/-! ## Truth -/

theorem toBoolean_ofPlain (v : Json) : (ofPlain v).toBoolean = v.isTruthy := by
  cases v with
  | number n =>
      simp only [ofPlain, ofDouble, Json.isTruthy]
      cases n.toBinary64 <;> rfl
  | string s =>
      by_cases hs : s = ""
      · subst hs
        rfl
      · have hunits : Text.units s ≠ [] := fun h => hs ((Text.units_eq_nil_iff s).mp h)
        simp [ofPlain, ofText, toBoolean, Json.isTruthy, hs, hunits]
  | _ => rfl

theorem toBoolean_ofPlain? (v : Option Json) :
    (ofPlain? v).toBoolean = (v.map Json.isTruthy).getD false := by
  cases v with
  | none => rfl
  | some v => exact toBoolean_ofPlain v

/-! ## Numbers -/

theorem toPrimitive_of_not_object {v : Value} (h : v.isObject = false) :
    v.toPrimitive = .ok v := by
  simp [toPrimitive, fuelFor, primitiveAt, h]

theorem toInt32_of_primitive {v : Value} {x : Binary64} (h : v.isObject = false)
    (hx : v.primitiveNumber = .ok x) : v.toInt32 = .ok x.toInt32 := by
  rw [toInt32, toNumber, toPrimitive_of_not_object h]
  simp only [bind, Except.bind, hx]

/-- The integer that a script makes of a value has 32 bits. -/
theorem toInt32_bounds {v : Value} {n : Int} (h : v.toInt32 = .ok n) :
    -2 ^ 31 ≤ n ∧ n < 2 ^ 31 := by
  rw [toInt32] at h
  cases hx : v.toNumber with
  | error e => simp [hx, bind, Except.bind] at h
  | ok x =>
      simp only [hx, bind, Except.bind, Except.ok.injEq] at h
      exact h ▸ x.toInt32_bounds

theorem toInt32_ofPlain {v : Json} (h : v.ReadsAlike) :
    (ofPlain v).toInt32 = .ok v.relevanceNumber.toInt32 := by
  cases v with
  | null => exact toInt32_of_primitive rfl rfl
  | boolean b => exact toInt32_of_primitive rfl rfl
  | number n => exact toInt32_of_primitive rfl rfl
  | string s =>
      have hnumber : (ofText s).primitiveNumber = .ok (Numeral.script s) := by
        simp [ofText, primitiveNumber]
      rw [ofPlain, toInt32_of_primitive rfl hnumber, Numeral.toInt32_script h]
      rfl
  | array items => exact absurd h not_false
  | object fields => exact absurd h not_false

theorem toInt32_ofPlain? {v : Option Json} (h : ∀ w, v = some w → w.ReadsAlike) :
    ∃ n, (ofPlain? v).toInt32 = .ok n ∧ n.toNat = (v.map Json.toRelevance).getD 0 := by
  cases v with
  | none =>
      have hnan : Value.undefined.toInt32 = .ok (Binary64.toInt32 .nan) :=
        toInt32_of_primitive rfl rfl
      exact ⟨_, hnan, rfl⟩
  | some w => exact ⟨_, toInt32_ofPlain (h w rfl), rfl⟩

end Script.Value

end LineHighlight
