import LineHighlight.Number.Shortest
import Mathlib.Algebra.Order.Ring.Nat
import Mathlib.Data.Nat.Log
import Mathlib.Tactic.Ring

/-! Integers as doubles.
An integer below `2 ^ 53` in magnitude is a double exactly, and a format without a point writes
it with its own decimal digits. -/

namespace LineHighlight

namespace Binary64

/-! ## The double of an integer -/

theorem pow2Le_one_log2 {n : Nat} (hn : n ≠ 0) : pow2Le 1 n n.log2 = true := by
  simp [pow2Le, Nat.log2_self_le hn]

theorem floorLog2_one {n : Nat} (hn : n ≠ 0) : floorLog2 n 1 = n.log2 := by
  have hone : Nat.log2 1 = 0 := by decide
  simp only [floorLog2, hone, Nat.cast_zero, sub_zero, pow2Le_one_log2 hn, if_true]

@[simp] theorem roundDiv_one (n : Nat) : roundDiv n 1 = n := by
  simp [roundDiv, Nat.mod_one]

/-- The places by which a number is shifted to have 53 bits. -/
def shift (n : Nat) : Nat := 52 - n.log2

theorem log2_add_shift {n : Nat} (hn : n ≠ 0) (hlt : n < 2 ^ 53) : n.log2 + shift n = 52 := by
  have hlog : n.log2 < 53 := (Nat.log2_lt hn).mpr hlt
  rw [shift]
  omega

theorem shifted_lt {n : Nat} (hn : n ≠ 0) (hlt : n < 2 ^ 53) : n * 2 ^ shift n < 2 ^ 53 := by
  have hupper : n < 2 ^ (n.log2 + 1) := Nat.lt_log2_self
  calc n * 2 ^ shift n < 2 ^ (n.log2 + 1) * 2 ^ shift n :=
        Nat.mul_lt_mul_of_pos_right hupper (Nat.two_pow_pos _)
    _ = 2 ^ (n.log2 + shift n + 1) := by rw [← Nat.pow_add]; congr 1; omega
    _ = 2 ^ 53 := by rw [log2_add_shift hn hlt]

/-- A positive integer below `2 ^ 53` is its own double, with 53 bits in front of the exponent. -/
theorem round_of_lt {n : Nat} (hn : n ≠ 0) (hlt : n < 2 ^ 53) (negative : Bool) :
    round negative n 1 = .finite negative (n * 2 ^ shift n) (-(shift n : Int)) := by
  have hsum := log2_add_shift hn hlt
  have hunit : unitExponent n 1 = -(shift n : Int) := by
    rw [unitExponent, floorLog2_one hn]
    omega
  have hround : roundAt n 1 (-(shift n : Int)) = n * 2 ^ shift n := by
    rw [roundAt]
    split
    case isTrue h =>
      have hzero : shift n = 0 := by omega
      simp [hzero]
    case isFalse h => simp
  have hbits : n * 2 ^ shift n ≠ Nat.pow 2 53 := Nat.ne_of_lt (shifted_lt hn hlt)
  have hrange : ¬ (971 < -(shift n : Int)) := by omega
  simp only [round, if_neg hn, hunit, hround, if_neg hbits, if_neg hrange]

theorem ratio_shifted (n k : Nat) :
    (ratio (n * 2 ^ k) (-(k : Int))).1 / (ratio (n * 2 ^ k) (-(k : Int))).2 = n := by
  rw [ratio]
  split
  case isTrue h =>
    have hzero : k = 0 := by omega
    simp [hzero]
  case isFalse h => simp

theorem ofInt_of_ne_zero {n : Int} (hn : n ≠ 0) (hlt : n.natAbs < 2 ^ 53) :
    ofInt n =
      .finite (n < 0) (n.natAbs * 2 ^ shift n.natAbs) (-(shift n.natAbs : Int)) := by
  rw [ofInt, round_of_lt (Int.natAbs_ne_zero.mpr hn) hlt]

@[simp] theorem ofInt_zero : ofInt 0 = zero false := rfl

theorem truncate?_zero (negative : Bool) : (zero negative).truncate? = some 0 := by
  have hnum : (ratio 0 (-1074)).1 = 0 := rfl
  cases negative <;> simp only [zero, truncate?, hnum, Nat.zero_div] <;> rfl

@[simp] theorem toInt32_zero (negative : Bool) : (zero negative).toInt32 = 0 := by
  rw [toInt32, truncate?_zero]
  rfl

/-- An integer below `2 ^ 53` is the integer part of its double. -/
theorem truncate?_ofInt {n : Int} (hlt : n.natAbs < 2 ^ 53) : (ofInt n).truncate? = some n := by
  rcases eq_or_ne n 0 with rfl | hn
  · exact truncate?_zero false
  · rw [ofInt_of_ne_zero hn hlt]
    simp only [truncate?, ratio_shifted]
    rcases lt_or_gt_of_ne hn with hneg | hpos
    · simp only [hneg, decide_true, if_true]
      congr 1
      omega
    · simp only [not_lt.mpr hpos.le, decide_false, Bool.false_eq_true, if_false]
      congr 1
      omega

/-- Integers of 32 bits are not changed by the reduction to 32 bits. -/
theorem toInt32_ofInt {n : Int} (hlow : -2 ^ 31 ≤ n) (hhigh : n < 2 ^ 31) :
    (ofInt n).toInt32 = n := by
  have hbound : n.natAbs < 2 ^ 53 := by omega
  rw [toInt32, truncate?_ofInt hbound]
  exact Int.bmod_eq_of_le (by norm_num; omega) (by norm_num; omega)

theorem toInt32_bounds (x : Binary64) : -2 ^ 31 ≤ x.toInt32 ∧ x.toInt32 < 2 ^ 31 := by
  unfold toInt32
  split
  case h_1 n _ =>
    have hlow := Int.le_bmod (x := n) (m := Nat.pow 2 32) (by decide)
    have hhigh := Int.bmod_lt (x := n) (m := Nat.pow 2 32) (by decide)
    norm_num at hlow hhigh ⊢
    omega
  case h_2 => decide

end Binary64

/-! ## Its shortest decimal -/

namespace Decimal

/-- The decimal is a natural number, and not zero. -/
def IsNat (d : Decimal) (n : Nat) : Prop :=
  0 < d.digits ∧ ∃ t : Nat, d.exponent = t ∧ d.digits * 10 ^ t = n

theorem IsNat.stripZeros {d : Decimal} {n : Nat} (h : d.IsNat n) :
    ∀ fuel, (Decimal.stripZeros fuel d).IsNat n := by
  intro fuel
  induction fuel generalizing d with
  | zero => exact h
  | succ fuel ih =>
      rw [Decimal.stripZeros]
      split
      case isTrue hzero =>
        obtain ⟨hpos, t, ht, hn⟩ := h
        have hten : d.digits / 10 * 10 = d.digits :=
          Nat.div_mul_cancel (Nat.dvd_of_mod_eq_zero hzero.2)
        have hpos' : 0 < d.digits / 10 := by omega
        refine ih ⟨hpos', t + 1, by simp [ht], ?_⟩
        rw [pow_succ', ← mul_assoc, hten, hn]
      case isFalse => exact h

theorem unit_shifted (k : Nat) : Binary64.ratio 1 (-(k : Int)) = (1, 2 ^ k) := by
  rw [Binary64.ratio]
  split
  case isTrue h =>
    have hzero : k = 0 := by omega
    simp [hzero]
  case isFalse h => simp

section Interval

variable {p : Prop} [Decidable p] {value below above x : Nat}

/-- The value lies in the interval around it. -/
theorem inside_self (hvalue : 0 < value) (hbelow : 0 < below) (habove : 0 < above) :
    (if p then decide (value - below ≤ value) && decide (value ≤ value + above)
      else decide (value - below < value) && decide (value < value + above)) = true := by
  split
  · simp
  · simp only [Bool.and_eq_true, decide_eq_true_eq]
    omega

theorem not_inside_of_far (h : x + below < value ∨ value + above < x) :
    (if p then decide (value - below ≤ x) && decide (x ≤ value + above)
      else decide (value - below < x) && decide (x < value + above)) = false := by
  split <;> simp <;> omega

end Interval

/-! An integer `n` in units of `1 / s`, between its neighbours on the grid of multiples of `g`. -/

theorem left_neighbour (n g s : Nat) : n / g * (s * g) + s * (n % g) = s * n := by
  calc n / g * (s * g) + s * (n % g) = s * (g * (n / g) + n % g) := by ring
    _ = s * n := by rw [Nat.div_add_mod]

theorem right_neighbour (n s : Nat) {g : Nat} (hg : 0 < g) :
    s * n + s ≤ (n / g + 1) * (s * g) := by
  have hnext : n + 1 ≤ (n / g + 1) * g := by
    rw [Nat.succ_mul]
    exact Nat.lt_div_mul_add hg
  calc s * n + s = s * (n + 1) := (Nat.mul_succ s n).symm
    _ ≤ s * ((n / g + 1) * g) := Nat.mul_le_mul_left _ hnext
    _ = (n / g + 1) * (s * g) := by ring

/-- On a grid of whole numbers the only neighbour that reads back as an integer is the integer
itself. -/
theorem candidate_shifted {n t : Nat} (ht : 10 ^ t ≤ n) (k : Nat) :
    candidate (n * 2 ^ k) (-(k : Int)) t =
      if n % 10 ^ t = 0 then some ⟨n / 10 ^ t, t⟩ else none := by
  have hgrid : (0 : Int) ≤ t := Int.natCast_nonneg t
  have hg : 0 < 10 ^ t := Nat.pow_pos (by decide)
  have hk : 0 < 2 ^ k := Nat.two_pow_pos k
  have hscale : 0 < 4 * 2 ^ k := by omega
  have hq : 0 < n / 10 ^ t := Nat.div_pos ht hg
  have hvalue : 4 * (n * 2 ^ k) = 4 * 2 ^ k * n := by ring
  have hstep : 4 * 10 ^ t * 2 ^ k = 4 * 2 ^ k * 10 ^ t := by ring
  have hdiv : 4 * 2 ^ k * n / (4 * 2 ^ k * 10 ^ t) = n / 10 ^ t := Nat.mul_div_mul_left _ _ hscale
  have hbelow : 0 < (if n * 2 ^ k = 2 ^ 52 ∧ -1074 < -(k : Int) then 1 else 2) := by
    split <;> decide
  have hleft := left_neighbour n (10 ^ t) (4 * 2 ^ k)
  have hright : 4 * 2 ^ k * n + 2 < (n / 10 ^ t + 1) * (4 * 2 ^ k * 10 ^ t) := by
    have hnext := right_neighbour n (4 * 2 ^ k) hg
    omega
  simp only [candidate, unit_shifted, if_pos hgrid, Int.toNat_natCast, Nat.mul_one, Nat.pow_eq,
    hvalue, hstep, hdiv]
  rw [not_inside_of_far (.inr hright)]
  by_cases hzero : n % 10 ^ t = 0
  · rw [hzero, Nat.mul_zero, Nat.add_zero] at hleft
    rw [hleft, inside_self (Nat.mul_pos hscale (by omega)) hbelow (by decide)]
    simp [hq, hzero]
  · rw [not_inside_of_far]
    · simp [hzero]
    · left
      have hgap : 4 * 2 ^ k ≤ 4 * 2 ^ k * (n % 10 ^ t) :=
        Nat.le_mul_of_pos_right _ (Nat.pos_of_ne_zero hzero)
      split <;> omega

theorem pow_digitCount_le {n : Nat} (hn : 0 < n) : 10 ^ (digitCount n - 1) ≤ n := by
  rcases Nat.eq_zero_or_pos (digitCount n - 1) with hzero | hpos
  · rw [hzero]
    exact hn
  · by_contra hlt
    have hlength := (Nat.length_toDigits_le_iff (by decide) hpos).mpr (Nat.lt_of_not_le hlt)
    rw [digitCount] at hlength hpos
    omega

theorem digitCount_le {n : Nat} (hlt : n < 2 ^ 53) : digitCount n ≤ 16 :=
  (Nat.length_toDigits_le_iff (by decide) (by decide)).mpr
    (Nat.lt_trans hlt (by decide : 2 ^ 53 < 10 ^ 16))

/-- The search ends at the latest with all digits of the integer. -/
theorem search_shifted {n : Nat} (hn : 0 < n) (k : Nat) (count : Nat) :
    ∀ first, 1 ≤ first → first ≤ digitCount n → digitCount n < first + count →
      ∃ d, search (n * 2 ^ k) (-(k : Int)) ((digitCount n : Int) - 1) (List.range' first count) =
        some d ∧ d.IsNat n := by
  induction count with
  | zero =>
      intro first _ hle hlt
      omega
  | succ count ih =>
      intro first hone hle hlt
      have hgrid : (digitCount n : Int) - 1 - (first : Int) + 1 = (digitCount n - first : Nat) := by
        omega
      have hpow : 10 ^ (digitCount n - first) ≤ n :=
        Nat.le_trans (Nat.pow_le_pow_right (by decide) (by omega)) (pow_digitCount_le hn)
      rw [List.range'_succ, search, hgrid, candidate_shifted hpow]
      by_cases hzero : n % 10 ^ (digitCount n - first) = 0
      · rw [if_pos hzero]
        exact ⟨_, rfl, Nat.div_pos hpow (Nat.pow_pos (by decide)), _, rfl,
          Nat.div_mul_cancel (Nat.dvd_of_mod_eq_zero hzero)⟩
      · have hne : first ≠ digitCount n := by
          rintro rfl
          exact hzero (by rw [Nat.sub_self, pow_zero, Nat.mod_one])
        rw [if_neg hzero]
        exact ih (first + 1) (by omega) (by omega) (by omega)

/-- The shortest decimal of an integer below `2 ^ 53` is that integer. -/
theorem shortest_shifted {n : Nat} (hn : 0 < n) (hlt : n < 2 ^ 53) (k : Nat) :
    (shortest (n * 2 ^ k) (-(k : Int))).IsNat n := by
  have hquotient := Binary64.ratio_shifted n k
  have hlead : leadingExponent (Binary64.ratio (n * 2 ^ k) (-(k : Int))).1
      (Binary64.ratio (n * 2 ^ k) (-(k : Int))).2 = (digitCount n : Int) - 1 := by
    rw [leadingExponent, if_pos, hquotient]
    by_contra hsmall
    rw [Nat.div_eq_of_lt (Nat.lt_of_not_le hsmall)] at hquotient
    omega
  have hcount := digitCount_le hlt
  have hpos : 1 ≤ digitCount n := Nat.length_toDigits_pos
  obtain ⟨d, hsearch, hd⟩ := search_shifted hn k 17 1 (Nat.le_refl 1) hpos (by omega)
  rw [shortest, hlead, hsearch]
  exact hd.stripZeros 400

end Decimal

/-! ## Its text -/

theorem toDigits_mul_pow {n : Nat} (hn : 0 < n) (t : Nat) :
    Nat.toDigits 10 (n * 10 ^ t) = Nat.toDigits 10 n ++ List.replicate t '0' := by
  induction t with
  | zero => simp
  | succ t ih =>
      have hpos : 0 < n * 10 ^ t := Nat.mul_pos hn (Nat.pow_pos (by decide))
      have hlast := Nat.toDigits_append_toDigits (b := 10) (d := 0) (by decide) hpos (by decide)
      have hnext : 10 * (n * 10 ^ t) + 0 = n * 10 ^ (t + 1) := by ring
      rw [← hnext, ← hlast, ih, List.append_assoc, List.replicate_succ']
      rfl

namespace NumberFormat

variable {f : NumberFormat}

theorem positional_of_isNat (hpoint : f.keepPoint = false) {d : Decimal} {n : Nat}
    (hd : d.IsNat n) :
    f.positional (Nat.toDigits 10 d.digits)
      (d.exponent + ((Nat.toDigits 10 d.digits).length : Int) - 1) = Nat.toDigits 10 n := by
  obtain ⟨hpos, t, ht, rfl⟩ := hd
  have hlength : 0 < (Nat.toDigits 10 d.digits).length := Nat.length_toDigits_pos
  generalize hds : Nat.toDigits 10 d.digits = ds at *
  have hlead : ¬ (d.exponent + (ds.length : Int) - 1 < 0) := by omega
  have hfits : ds.length ≤ (d.exponent + (ds.length : Int) - 1).toNat + 1 := by omega
  have hzeros : (d.exponent + (ds.length : Int) - 1).toNat + 1 - ds.length = t := by omega
  rw [positional, if_neg hlead, if_pos hfits, hzeros, hpoint, toDigits_mul_pow hpos, hds]
  simp

theorem toString_eq_sign_append (n : Int) :
    toString n =
      (if decide (n < 0) then "-" else "") ++ String.ofList (Nat.toDigits 10 n.natAbs) := by
  cases n with
  | ofNat n =>
      have hsign : ¬ ((n : Int) < 0) := Int.not_lt.mpr (Int.natCast_nonneg n)
      simp [toString, Int.repr, Nat.repr_eq_ofList_toDigits, hsign]
  | negSucc n => simp [toString, Int.repr, Nat.repr_eq_ofList_toDigits]

/-- A format that starts positional notation at one or below, and has no point in whole numbers,
writes an integer as its digits. -/
theorem text_ofInt (hlow : f.lowest ≤ 0) (hhigh : 15 ≤ f.highest)
    (hpoint : f.keepPoint = false) {n : Int} (hlt : n.natAbs < 2 ^ 53) :
    f.text (Binary64.ofInt n) = toString n := by
  rcases eq_or_ne n 0 with rfl | hn
  · simp [Binary64.zero, text, hpoint]
    rfl
  · have habs : 0 < n.natAbs := Int.natAbs_pos.mpr hn
    have hd := Decimal.shortest_shifted habs hlt (Binary64.shift n.natAbs)
    have hbits : n.natAbs * 2 ^ Binary64.shift n.natAbs ≠ 0 :=
      Nat.ne_of_gt (Nat.mul_pos habs (Nat.two_pow_pos _))
    rw [Binary64.ofInt_of_ne_zero hn hlt]
    simp only [text, if_neg hbits]
    generalize hshortest : Decimal.shortest (n.natAbs * 2 ^ Binary64.shift n.natAbs)
      (-(Binary64.shift n.natAbs : Int)) = d at hd ⊢
    have hrange : f.lowest ≤ d.exponent + ((Nat.toDigits 10 d.digits).length : Int) - 1 ∧
        d.exponent + ((Nat.toDigits 10 d.digits).length : Int) - 1 ≤ f.highest := by
      have hcount := Decimal.digitCount_le hlt
      obtain ⟨hpos, t, ht, hvalue⟩ := hd
      have hlength : 0 < (Nat.toDigits 10 d.digits).length := Nat.length_toDigits_pos
      rw [Decimal.digitCount, ← hvalue, toDigits_mul_pow hpos, List.length_append,
        List.length_replicate] at hcount
      omega
    rw [if_pos hrange, positional_of_isNat hpoint hd, toString_eq_sign_append]

end NumberFormat

end LineHighlight
