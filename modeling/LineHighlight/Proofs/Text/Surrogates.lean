import LineHighlight.Proofs.Text.Utf16

/-! Surrogates that stand alone.
A list of units is the form of a text iff no surrogate in it stands alone. -/

namespace LineHighlight.Text

/-- Some surrogate stands alone: a high one without a low one behind it, or a low one without a
high one in front of it. -/
def HasLoneSurrogate (us : List Unit16) : Prop :=
  ∃ front u back, us = front ++ u :: back ∧
    (isHighSurrogate u = true ∧ back.head?.any isLowSurrogate = false ∨
      isLowSurrogate u = true ∧ front.getLast?.any isHighSurrogate = false)

variable {u v : Unit16} {us : List Unit16}

theorem isHighSurrogate_eq_false_of_low (h : isLowSurrogate u = true) :
    isHighSurrogate u = false := by
  simp only [isLowSurrogate, Bool.and_eq_true, decide_eq_true_eq] at h
  simp only [isHighSurrogate, Bool.and_eq_false_iff, decide_eq_false_iff_not]
  omega

theorem isLowSurrogate_eq_false_of_high (h : isHighSurrogate u = true) :
    isLowSurrogate u = false := by
  cases hlow : isLowSurrogate u with
  | false => rfl
  | true => rw [isHighSurrogate_eq_false_of_low hlow] at h; cases h

namespace HasLoneSurrogate

theorem of_high (hu : isHighSurrogate u = true) (hus : us.head?.any isLowSurrogate = false) :
    HasLoneSurrogate (u :: us) :=
  ⟨[], u, us, rfl, .inl ⟨hu, hus⟩⟩

theorem of_low (hu : isLowSurrogate u = true) (us : List Unit16) : HasLoneSurrogate (u :: us) :=
  ⟨[], u, us, rfl, .inr ⟨hu, rfl⟩⟩

/-- Units that do not end in a high surrogate pair with none of those behind them. -/
theorem append (before : List Unit16) (hbefore : before.getLast?.any isHighSurrogate = false)
    (h : HasLoneSurrogate us) : HasLoneSurrogate (before ++ us) := by
  obtain ⟨front, w, back, rfl, hw⟩ := h
  refine ⟨before ++ front, w, back, by rw [List.append_assoc],
    hw.imp_right fun ⟨hlow, hfront⟩ => ⟨hlow, ?_⟩⟩
  rw [List.getLast?_append]
  cases hlast : front.getLast? with
  | none => simpa using hbefore
  | some x => simpa [hlast] using hfront

theorem any_getLast?_of_cons {p : Unit16 → Bool} {front : List Unit16}
    (h : (u :: front).getLast?.any p = false) : front.getLast?.any p = false := by
  cases hlast : front.getLast? with
  | none => rfl
  | some x => simpa [List.getLast?_cons, hlast] using h

theorem of_cons (hhigh : isHighSurrogate u = false) (hlow : isLowSurrogate u = false)
    (h : HasLoneSurrogate (u :: us)) : HasLoneSurrogate us := by
  obtain ⟨front, w, back, heq, hw⟩ := h
  cases front with
  | nil =>
      obtain ⟨rfl, rfl⟩ := List.cons.inj heq
      simp [hhigh, hlow] at hw
  | cons x front =>
      obtain ⟨rfl, rfl⟩ := List.cons.inj heq
      exact ⟨front, w, back, rfl, hw.imp_right fun h => ⟨h.1, any_getLast?_of_cons h.2⟩⟩

theorem of_pair (hu : isHighSurrogate u = true) (hv : isLowSurrogate v = true)
    (h : HasLoneSurrogate (u :: v :: us)) : HasLoneSurrogate us := by
  obtain ⟨front, w, back, heq, hw⟩ := h
  cases front with
  | nil =>
      obtain ⟨rfl, rfl⟩ := List.cons.inj heq
      simp [isLowSurrogate_eq_false_of_high hu, hv] at hw
  | cons x front =>
      obtain ⟨rfl, htail⟩ := List.cons.inj heq
      cases front with
      | nil =>
          obtain ⟨rfl, rfl⟩ := List.cons.inj htail
          simp [isHighSurrogate_eq_false_of_low hv, hu] at hw
      | cons y front =>
          obtain ⟨rfl, rfl⟩ := List.cons.inj htail
          exact ⟨front, w, back, rfl, hw.imp_right fun h =>
            ⟨h.1, any_getLast?_of_cons (any_getLast?_of_cons h.2)⟩⟩

end HasLoneSurrogate

/-! ## Reading from the left -/

theorem scalars_cons_of_high (hu : isHighSurrogate u = true)
    (hus : us.head?.any isLowSurrogate = false) : scalars (u :: us) = .inr u :: scalars us := by
  cases us with
  | nil => simp [scalars, hu]
  | cons v rest =>
      have hv : isLowSurrogate v = false := hus
      simp [scalars, hu, hv]

theorem scalars_cons_of_low (hu : isLowSurrogate u = true) (us : List Unit16) :
    scalars (u :: us) = .inr u :: scalars us := by
  have hhigh := isHighSurrogate_eq_false_of_low hu
  cases us with
  | nil => simp [scalars, hu]
  | cons v rest => simp [scalars, hu, hhigh]

/-- A list of units begins with a pair, with a unit that is no surrogate, or with a surrogate that
stands alone. -/
@[elab_as_elim]
theorem units_induction {motive : List Unit16 → Prop} (nil : motive [])
    (pair : ∀ u v us, isHighSurrogate u = true → isLowSurrogate v = true → motive us →
      motive (u :: v :: us))
    (plain : ∀ u us, isHighSurrogate u = false → isLowSurrogate u = false → motive us →
      motive (u :: us))
    (high : ∀ u us, isHighSurrogate u = true → us.head?.any isLowSurrogate = false →
      motive (u :: us))
    (low : ∀ u us, isLowSurrogate u = true → motive (u :: us)) (us : List Unit16) : motive us := by
  induction us using scalars.induct with
  | case1 => exact nil
  | case2 u hu =>
      rcases Bool.or_eq_true_iff.mp hu with hu | hu
      · exact high u [] hu rfl
      · exact low u [] hu
  | case3 u hu =>
      obtain ⟨hhigh, hlow⟩ := Bool.or_eq_false_iff.mp (eq_false_of_ne_true hu)
      exact plain u [] hhigh hlow nil
  | case4 u v rest hu hv ih => exact pair u v rest hu hv ih
  | case5 u v rest hu hv ih => exact high u (v :: rest) hu (eq_false_of_ne_true hv)
  | case6 u v rest hu hl ih => exact low u (v :: rest) hl
  | case7 u v rest hu hl ih =>
      exact plain u (v :: rest) (eq_false_of_ne_true hu) (eq_false_of_ne_true hl) ih

/-- Reading the units from the left finds just the surrogates that stand alone. -/
theorem isPaired_iff (us : List Unit16) : isPaired us = true ↔ ¬ HasLoneSurrogate us := by
  induction us using units_induction with
  | nil => simp [isPaired, scalars, HasLoneSurrogate]
  | pair u v us hu hv ih =>
      have hiff : HasLoneSurrogate (u :: v :: us) ↔ HasLoneSurrogate us :=
        ⟨.of_pair hu hv, .append [u, v] (isHighSurrogate_eq_false_of_low hv)⟩
      rw [hiff, ← ih]
      simp [isPaired, scalars_cons_cons_of_pair hu hv]
  | plain u us hhigh hlow ih =>
      have hiff : HasLoneSurrogate (u :: us) ↔ HasLoneSurrogate us :=
        ⟨.of_cons hhigh hlow, .append [u] hhigh⟩
      rw [hiff, ← ih]
      simp [isPaired, scalars_cons_of_not_surrogate hhigh hlow]
  | high u us hu hus =>
      have hlone := HasLoneSurrogate.of_high hu hus
      simp [isPaired, scalars_cons_of_high hu hus, hlone]
  | low u us hu =>
      have hlone := HasLoneSurrogate.of_low hu us
      simp [isPaired, scalars_cons_of_low hu, hlone]

/-! ## The text of paired units -/

theorem toNat_ofNat_of_valid {n : Nat} (h : n.isValidChar) : (Char.ofNat n).toNat = n := by
  rw [Char.ofNat, dif_pos h]
  rfl

theorem unitsOfChar_ofNat (hhigh : isHighSurrogate u = false) (hlow : isLowSurrogate u = false) :
    unitsOfChar (Char.ofNat u.toNat) = [u] := by
  have hu := u.toNat_lt
  have hvalid : u.toNat.isValidChar := by
    simp only [isHighSurrogate, Bool.and_eq_false_iff, decide_eq_false_iff_not] at hhigh
    simp only [isLowSurrogate, Bool.and_eq_false_iff, decide_eq_false_iff_not] at hlow
    unfold Nat.isValidChar
    omega
  have hchar : (Char.ofNat u.toNat).toNat = u.toNat := toNat_ofNat_of_valid hvalid
  rw [unitsOfChar, hchar, if_pos hu, UInt16.ofNat_toNat]

theorem unitsOfChar_charOfPair (hu : isHighSurrogate u = true) (hv : isLowSurrogate v = true) :
    unitsOfChar (charOfPair u v) = [u, v] := by
  simp only [isHighSurrogate, Bool.and_eq_true, decide_eq_true_eq] at hu
  simp only [isLowSurrogate, Bool.and_eq_true, decide_eq_true_eq] at hv
  have hvalid : (0x10000 + (u.toNat - 0xd800) * 0x400 + (v.toNat - 0xdc00)).isValidChar := by
    unfold Nat.isValidChar
    omega
  have hchar : (charOfPair u v).toNat =
      0x10000 + (u.toNat - 0xd800) * 0x400 + (v.toNat - 0xdc00) :=
    toNat_ofNat_of_valid hvalid
  have hhigh : 0xd800 + ((charOfPair u v).toNat - 0x10000) / 0x400 = u.toNat := by omega
  have hlow : 0xdc00 + ((charOfPair u v).toNat - 0x10000) % 0x400 = v.toNat := by omega
  rw [unitsOfChar, if_neg (by omega), hhigh, hlow, UInt16.ofNat_toNat, UInt16.ofNat_toNat]

theorem exists_unitsOfChars (h : ¬ HasLoneSurrogate us) : ∃ cs, unitsOfChars cs = us := by
  induction us using units_induction with
  | nil => exact ⟨[], rfl⟩
  | pair u v us hu hv ih =>
      have hrest : ¬ HasLoneSurrogate us := fun hlone =>
        h (hlone.append [u, v] (isHighSurrogate_eq_false_of_low hv))
      obtain ⟨cs, rfl⟩ := ih hrest
      refine ⟨charOfPair u v :: cs, ?_⟩
      rw [unitsOfChars, List.flatMap_cons, unitsOfChar_charOfPair hu hv]
      rfl
  | plain u us hhigh hlow ih =>
      have hrest : ¬ HasLoneSurrogate us := fun hlone => h (hlone.append [u] hhigh)
      obtain ⟨cs, rfl⟩ := ih hrest
      refine ⟨Char.ofNat u.toNat :: cs, ?_⟩
      rw [unitsOfChars, List.flatMap_cons, unitsOfChar_ofNat hhigh hlow]
      rfl
  | high u us hu hus => exact absurd (.of_high hu hus) h
  | low u us hu => exact absurd (.of_low hu us) h

/-- A list of units is the form of a text iff no surrogate in it stands alone. -/
theorem exists_units_eq_iff : (∃ s, units s = us) ↔ ¬ HasLoneSurrogate us := by
  constructor
  · rintro ⟨s, rfl⟩
    rw [← isPaired_iff, isPaired, scalars_units]
    simp
  · intro h
    obtain ⟨cs, rfl⟩ := exists_unitsOfChars h
    exact ⟨String.ofList cs, by rw [units, String.toList_ofList]⟩

end LineHighlight.Text
