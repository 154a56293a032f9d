import LineHighlight.Text.Utf16
import Mathlib.Algebra.Ring.Nat

/-! Texts in 16-bit units.
Reading the units of a text gives its characters back, and no surrogate in them stands alone. -/

namespace LineHighlight.Text

/-! ## One character -/

theorem toNat_lt_or_gt_surrogates (c : Char) : c.toNat < 0xd800 ∨ 0xdfff < c.toNat := by
  rcases c.valid with h | h
  · exact .inl h
  · exact .inr h.1

theorem toNat_lt_limit (c : Char) : c.toNat < 0x110000 := by
  rcases c.valid with h | h
  · exact Nat.lt_trans h (by decide)
  · exact h.2

theorem scalars_cons_of_not_surrogate {u : Unit16} (hh : isHighSurrogate u = false)
    (hl : isLowSurrogate u = false) (us : List Unit16) :
    scalars (u :: us) = .inl (Char.ofNat u.toNat) :: scalars us := by
  cases us with
  | nil => simp [scalars, hh, hl]
  | cons v rest => simp [scalars, hh, hl]

theorem scalars_cons_cons_of_pair {u v : Unit16} (hu : isHighSurrogate u = true)
    (hv : isLowSurrogate v = true) (us : List Unit16) :
    scalars (u :: v :: us) = .inl (charOfPair u v) :: scalars us := by
  simp [scalars, hu, hv]

/-- The units of a character are read as that character, whatever follows. -/
theorem scalars_unitsOfChar_append (c : Char) (us : List Unit16) :
    scalars (unitsOfChar c ++ us) = .inl c :: scalars us := by
  have hs := toNat_lt_or_gt_surrogates c
  have hc := toNat_lt_limit c
  unfold unitsOfChar
  split
  case isTrue hsmall =>
    have hu : (UInt16.ofNat c.toNat).toNat = c.toNat := UInt16.toNat_ofNat_of_lt' hsmall
    have hh : isHighSurrogate (UInt16.ofNat c.toNat) = false := by
      simp only [isHighSurrogate, hu, Bool.and_eq_false_iff, decide_eq_false_iff_not]
      omega
    have hl : isLowSurrogate (UInt16.ofNat c.toNat) = false := by
      simp only [isLowSurrogate, hu, Bool.and_eq_false_iff, decide_eq_false_iff_not]
      omega
    rw [List.singleton_append, scalars_cons_of_not_surrogate hh hl, hu, Char.ofNat_toNat]
  case isFalse hlarge =>
    have hhigh : (UInt16.ofNat (0xd800 + (c.toNat - 0x10000) / 0x400)).toNat =
        0xd800 + (c.toNat - 0x10000) / 0x400 :=
      UInt16.toNat_ofNat_of_lt' (Nat.lt_trans (by omega) (by decide : 0xe000 < UInt16.size))
    have hlow : (UInt16.ofNat (0xdc00 + (c.toNat - 0x10000) % 0x400)).toNat =
        0xdc00 + (c.toNat - 0x10000) % 0x400 :=
      UInt16.toNat_ofNat_of_lt' (Nat.lt_trans (by omega) (by decide : 0xe000 < UInt16.size))
    have hchar : 0x10000 + (0xd800 + (c.toNat - 0x10000) / 0x400 - 0xd800) * 0x400 +
        (0xdc00 + (c.toNat - 0x10000) % 0x400 - 0xdc00) = c.toNat := by omega
    rw [List.cons_append, List.singleton_append, scalars_cons_cons_of_pair, charOfPair, hhigh,
      hlow, hchar, Char.ofNat_toNat]
    · simp only [isHighSurrogate, hhigh, Bool.and_eq_true, decide_eq_true_eq]
      omega
    · simp only [isLowSurrogate, hlow, Bool.and_eq_true, decide_eq_true_eq]
      omega

/-! ## A whole text -/

theorem scalars_unitsOfChars (cs : List Char) : scalars (unitsOfChars cs) = cs.map .inl := by
  induction cs with
  | nil => rfl
  | cons c rest ih =>
      rw [unitsOfChars, List.flatMap_cons, scalars_unitsOfChar_append, List.map_cons, ← ih,
        unitsOfChars]

/-- The units of a text are read as its characters. -/
@[simp] theorem scalars_units (s : String) : scalars (units s) = s.toList.map .inl :=
  scalars_unitsOfChars s.toList

/-- Every text comes back from its units. -/
@[simp] theorem ofUnits?_units (s : String) : ofUnits? (units s) = some s := by
  have hpaired : isPaired (units s) = true := by simp [isPaired]
  have hchars : s.toList.filterMap (fun c => some c) = s.toList := List.filterMap_some
  rw [ofUnits?, if_pos hpaired, scalars_units, List.filterMap_map]
  show some (String.ofList (s.toList.filterMap fun c => some c)) = some s
  rw [hchars, String.ofList_toList]

theorem unitsOfChar_ne_nil (c : Char) : unitsOfChar c ≠ [] := by
  unfold unitsOfChar
  split <;> simp

theorem units_eq_nil_iff (s : String) : units s = [] ↔ s = "" := by
  rw [units, unitsOfChars, List.flatMap_eq_nil_iff, ← String.toList_eq_nil_iff]
  constructor
  · intro h
    cases hs : s.toList with
    | nil => rfl
    | cons c rest => exact absurd (h c (by simp [hs])) (unitsOfChar_ne_nil c)
  · intro h c hc
    rw [h] at hc
    cases hc

end LineHighlight.Text
