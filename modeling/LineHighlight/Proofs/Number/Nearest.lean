import LineHighlight.Proofs.Number.Integers
import Mathlib.Algebra.Order.Field.Power
import Mathlib.Data.Rat.Cast.Order
import Mathlib.Tactic.FieldSimp
import Mathlib.Tactic.Linarith
import Mathlib.Tactic.Positivity

/-! Rounding to the nearest double.
A double is told apart from all the others by its distance to the number it stands for, and by
its significand where two are equally near. What `round` returns is that double. -/

namespace LineHighlight.Binary64

variable {x d d' : Rat} {k k' e e' : Int}

/-! ### Doubles among the rational numbers -/

/-- `k` units of a power of two, with at most 53 bits. -/
def HasSignificand (k : Int) (x : Rat) : Prop :=
  |k| < 2 ^ 53 ∧ ∃ e : Int, -1074 ≤ e ∧ e ≤ 971 ∧ x = k * 2 ^ e

def IsDouble (x : Rat) : Prop := ∃ k, HasSignificand k x

/-- The double `d` is nearest to `x`. Between two that are equally near it is the one with an
even significand: a double has one unless it is odd and has all 53 bits or the least exponent. -/
structure IsNearest (x d : Rat) : Prop where
  isDouble : IsDouble d
  least : ∀ c, IsDouble c → |x - d| ≤ |x - c|
  even_of_tie : ∀ c, IsDouble c → c ≠ d → |x - c| = |x - d| → ∃ k, Even k ∧ HasSignificand k d

theorem HasSignificand.neg (h : HasSignificand k x) : HasSignificand (-k) (-x) := by
  obtain ⟨hk, e, hlow, hhigh, rfl⟩ := h
  refine ⟨by rwa [abs_neg], e, hlow, hhigh, ?_⟩
  push_cast
  ring

theorem IsDouble.neg (h : IsDouble x) : IsDouble (-x) := by
  obtain ⟨k, hk⟩ := h
  exact ⟨-k, hk.neg⟩

theorem IsNearest.neg (h : IsNearest x d) : IsNearest (-x) (-d) := by
  have hflip : ∀ c : Rat, |-x - c| = |x - -c| := by
    intro c
    rw [← abs_neg]
    congr 1
    ring
  refine ⟨h.isDouble.neg, ?_, ?_⟩
  · intro c hc
    rw [hflip, hflip, neg_neg]
    exact h.least (-c) hc.neg
  · intro c hc hne htie
    rw [hflip, hflip, neg_neg] at htie
    have hne' : -c ≠ d := fun heq => hne (by rw [← heq, neg_neg])
    obtain ⟨k, heven, hk⟩ := h.even_of_tie (-c) hc.neg hne' htie
    exact ⟨-k, heven.neg, hk.neg⟩

theorem IsDouble.isNearest_self (h : IsDouble x) : IsNearest x x where
  isDouble := h
  least := by
    intro c _
    rw [sub_self, abs_zero]
    exact abs_nonneg _
  even_of_tie := by
    intro c _ hne htie
    rw [sub_self, abs_zero, abs_eq_zero, sub_eq_zero] at htie
    exact absurd htie.symm hne

/-- Next to an even significand there is another one on either side. -/
theorem isDouble_add_unit (heven : Even k) (hk : |k| < 2 ^ 53) (hlow : -1074 ≤ e)
    (hhigh : e ≤ 971) : IsDouble (k * 2 ^ e + 2 ^ e) := by
  obtain ⟨j, rfl⟩ := heven
  refine ⟨j + j + 1, ?_, e, hlow, hhigh, ?_⟩
  · rw [abs_lt] at hk ⊢
    omega
  · push_cast
    ring

theorem isDouble_sub_unit (heven : Even k) (hk : |k| < 2 ^ 53) (hlow : -1074 ≤ e)
    (hhigh : e ≤ 971) : IsDouble (k * 2 ^ e - 2 ^ e) := by
  have hneg := (isDouble_add_unit heven.neg (by rwa [abs_neg]) hlow hhigh).neg
  push_cast at hneg
  rwa [neg_mul, neg_add, neg_neg, ← sub_eq_add_neg] at hneg

/-- Even multiples of two units are apart by two of the smaller units at least. -/
theorem two_units_le (heven : Even k) (heven' : Even k') (hunits : e ≤ e')
    (hlt : (k : Rat) * 2 ^ e < k' * 2 ^ e') : k * 2 ^ e + 2 * 2 ^ e ≤ (k' : Rat) * 2 ^ e' := by
  obtain ⟨t, rfl⟩ := Int.le.dest hunits
  have hpos : (0 : Rat) < 2 ^ e := by positivity
  have hscale : (k' : Rat) * 2 ^ (e + t) = ((k' * 2 ^ t : Int) : Rat) * 2 ^ e := by
    rw [zpow_add₀ (by norm_num), zpow_natCast]
    push_cast
    ring
  rw [hscale] at hlt ⊢
  have hint : k < k' * 2 ^ t := by exact_mod_cast lt_of_mul_lt_mul_right hlt hpos.le
  obtain ⟨j, hj⟩ := heven
  obtain ⟨j', hj'⟩ := heven'.mul_right (2 ^ t)
  have hgap : k + 2 ≤ k' * 2 ^ t := by omega
  have hgap' : (k : Rat) + 2 ≤ ((k' * 2 ^ t : Int) : Rat) := by exact_mod_cast hgap
  calc (k : Rat) * 2 ^ e + 2 * 2 ^ e = (k + 2) * 2 ^ e := by ring
    _ ≤ ((k' * 2 ^ t : Int) : Rat) * 2 ^ e := mul_le_mul_of_nonneg_right hgap' hpos.le

/-- No double lies between two that are equally near. -/
theorem IsNearest.not_between {c : Rat} (h : IsNearest x d) (h' : IsNearest x d')
    (hc : IsDouble c) : ¬ (d < c ∧ c < d') := by
  rintro ⟨hdc, hcd'⟩
  rcases lt_or_ge x c with hbelow | habove
  · have hle := h'.least c hc
    rw [abs_of_neg (sub_neg.mpr hbelow), abs_of_neg (sub_neg.mpr (hbelow.trans hcd'))] at hle
    linarith
  · have hle := h.least c hc
    rw [abs_of_nonneg (sub_nonneg.mpr habove),
      abs_of_nonneg (sub_nonneg.mpr (hdc.le.trans habove))] at hle
    linarith

theorem IsNearest.le (h : IsNearest x d) (h' : IsNearest x d') : d' ≤ d := by
  apply not_lt.mp
  intro hlt
  have htie : |x - d| = |x - d'| := le_antisymm (h.least d' h'.isDouble) (h'.least d h.isDouble)
  obtain ⟨k, heven, hk, e, hlow, hhigh, rfl⟩ := h.even_of_tie d' h'.isDouble hlt.ne' htie.symm
  obtain ⟨k', heven', hk', e', hlow', hhigh', rfl⟩ := h'.even_of_tie _ h.isDouble hlt.ne htie
  have hpos : (0 : Rat) < 2 ^ e := by positivity
  have hpos' : (0 : Rat) < 2 ^ e' := by positivity
  rcases le_total e e' with hunits | hunits
  · have hgap := two_units_le heven heven' hunits hlt
    apply h.not_between h' (isDouble_add_unit heven hk hlow hhigh)
    constructor <;> linarith
  · have hflip : ((-k' : Int) : Rat) * 2 ^ e' < ((-k : Int) : Rat) * 2 ^ e := by
      push_cast
      linarith
    have hgap := two_units_le heven'.neg heven.neg hunits hflip
    push_cast at hgap
    apply h.not_between h' (isDouble_sub_unit heven' hk' hlow' hhigh')
    constructor <;> linarith

theorem IsNearest.unique (h : IsNearest x d) (h' : IsNearest x d') : d = d' :=
  le_antisymm (h'.le h) (h.le h')

/-! ### Rounding to a natural number -/

/-- `m` is nearest to `q` among the integers, and even if it is halfway to the next one. -/
structure IsRounded (q : Rat) (m : Nat) : Prop where
  near : |q - m| ≤ 1 / 2
  even_of_half : |q - m| = 1 / 2 → Even m

theorem roundDiv_spec (num : Nat) {den : Nat} (hden : 0 < den) :
    2 * |(num : Int) - roundDiv num den * den| ≤ den ∧
      (2 * |(num : Int) - roundDiv num den * den| = den → Even (roundDiv num den)) := by
  have hsplit : (num : Int) = num / den * den + num % den := (Int.ediv_mul_add_emod _ _).symm
  have hlt := Nat.mod_lt num hden
  have hnat : ((num / den : Nat) : Int) = num / den := Int.natCast_div num den
  have hrest : ((num % den : Nat) : Int) = num % den := Int.natCast_mod num den
  rw [← hnat, ← hrest] at hsplit
  rw [roundDiv]
  generalize num / den = q at *
  generalize num % den = r at *
  have hbelow : (num : Int) - q * den = r := by omega
  have habove : (num : Int) - (q + 1 : Nat) * den = r - den := by
    push_cast
    linarith
  split
  case isTrue hdown =>
    rw [hbelow, abs_of_nonneg (by omega)]
    omega
  case isFalse hdown =>
    split
    case isTrue hup =>
      rw [habove, abs_of_nonpos (by omega)]
      omega
    case isFalse hup =>
      rcases Nat.mod_two_eq_zero_or_one q with heven | hodd
      · rw [heven, Nat.add_zero, hbelow, abs_of_nonneg (by omega)]
        exact ⟨by omega, fun _ => Nat.even_iff.mpr heven⟩
      · rw [hodd, habove, abs_of_nonpos (by omega)]
        exact ⟨by omega, fun _ => Nat.even_iff.mpr (by omega)⟩

theorem isRounded_roundDiv (num : Nat) {den : Nat} (hden : 0 < den) :
    IsRounded (num / den) (roundDiv num den) := by
  obtain ⟨hnear, heven⟩ := roundDiv_spec num hden
  have hpos : (0 : Rat) < den := by exact_mod_cast hden
  have hdist : |(num : Rat) / den - roundDiv num den| =
      (2 * |(num : Int) - roundDiv num den * den| : Int) / (2 * den : Rat) := by
    have hfrac : (num : Rat) / den - roundDiv num den =
        (num - roundDiv num den * den) / den := by
      field_simp
    rw [hfrac, abs_div, abs_of_pos hpos]
    push_cast
    field_simp
  constructor
  · rw [hdist, div_le_div_iff₀ (by linarith) (by norm_num), one_mul]
    exact_mod_cast (by omega : (2 * |(num : Int) - roundDiv num den * den|) * 2 ≤ 2 * den)
  · intro hhalf
    apply heven
    rw [hdist, div_eq_div_iff (by linarith) (by norm_num), one_mul] at hhalf
    have hint : (2 * |(num : Int) - roundDiv num den * den|) * 2 = 2 * den := by
      exact_mod_cast hhalf
    omega

/-! ### The unit at which a quotient is rounded -/

variable {num den : Nat}

theorem pow2Le_iff (hden : 0 < den) : pow2Le den num k = true ↔ (2 : Rat) ^ k ≤ num / den := by
  have hpos : (0 : Rat) < den := by exact_mod_cast hden
  rw [pow2Le, le_div_iff₀ hpos]
  split
  case isTrue hk =>
    obtain ⟨j, rfl⟩ := Int.eq_ofNat_of_zero_le hk
    rw [decide_eq_true_iff, zpow_natCast, mul_comm ((2 : Rat) ^ j)]
    exact_mod_cast Iff.rfl
  case isFalse hk =>
    obtain ⟨j, hj⟩ := Int.eq_ofNat_of_zero_le (by omega : 0 ≤ -k)
    obtain rfl : k = -(j : Int) := by omega
    rw [decide_eq_true_iff, neg_neg, zpow_neg, zpow_natCast, inv_mul_le_iff₀ (by positivity),
      mul_comm ((2 : Rat) ^ j)]
    exact_mod_cast Iff.rfl

theorem floorLog2_spec (hnum : num ≠ 0) (hden : 0 < den) :
    (2 : Rat) ^ floorLog2 num den ≤ num / den ∧
      (num : Rat) / den < 2 ^ (floorLog2 num den + 1) := by
  have hnumLow : (2 : Rat) ^ (num.log2 : Int) ≤ num := by
    rw [zpow_natCast]
    exact_mod_cast Nat.log2_self_le hnum
  have hnumHigh : (num : Rat) < 2 ^ ((num.log2 : Int) + 1) := by
    rw [← Nat.cast_succ, zpow_natCast]
    exact_mod_cast Nat.lt_log2_self
  have hdenLow : (2 : Rat) ^ (den.log2 : Int) ≤ den := by
    rw [zpow_natCast]
    exact_mod_cast Nat.log2_self_le hden.ne'
  have hdenHigh : (den : Rat) < 2 ^ ((den.log2 : Int) + 1) := by
    rw [← Nat.cast_succ, zpow_natCast]
    exact_mod_cast Nat.lt_log2_self
  have hpos : (0 : Rat) < den := by exact_mod_cast hden
  have hlow : (2 : Rat) ^ ((num.log2 : Int) - den.log2 - 1) ≤ num / den := by
    have hexp : (num.log2 : Int) - den.log2 - 1 = num.log2 - (den.log2 + 1) := by omega
    rw [hexp, zpow_sub₀ (by norm_num)]
    gcongr
  have hhigh : (num : Rat) / den < 2 ^ ((num.log2 : Int) - den.log2 + 1) := by
    have hexp : (num.log2 : Int) - den.log2 + 1 = num.log2 + 1 - den.log2 := by omega
    rw [hexp, zpow_sub₀ (by norm_num)]
    gcongr
  rw [floorLog2]
  split
  case isTrue hle => exact ⟨(pow2Le_iff hden).mp hle, hhigh⟩
  case isFalse hle =>
    rw [pow2Le_iff hden, not_le] at hle
    exact ⟨hlow, by rwa [sub_add_cancel]⟩

theorem isRounded_roundAt (num : Nat) (hden : 0 < den) (e : Int) :
    IsRounded (num / den / 2 ^ e) (roundAt num den e) := by
  rw [roundAt]
  split
  case isTrue he =>
    obtain ⟨j, rfl⟩ := Int.eq_ofNat_of_zero_le he
    have hrounded := isRounded_roundDiv num (Nat.mul_pos hden (Nat.two_pow_pos j))
    push_cast at hrounded
    rwa [div_div, zpow_natCast]
  case isFalse he =>
    obtain ⟨j, hj⟩ := Int.eq_ofNat_of_zero_le (by omega : 0 ≤ -e)
    obtain rfl : e = -(j : Int) := by omega
    have hrounded := isRounded_roundDiv (num * 2 ^ j) hden
    push_cast at hrounded
    rwa [neg_neg, zpow_neg, div_inv_eq_mul, zpow_natCast, div_mul_eq_mul_div]

/-! ### The nearest double -/

theorem one_le_dist_add_dist (q : Rat) {m : Nat} {j : Int} (hj : j ≠ m) :
    1 ≤ |q - m| + |q - j| := by
  have hgap : (1 : Rat) ≤ |(m : Rat) - j| := by
    exact_mod_cast Int.one_le_abs (sub_ne_zero.mpr (Ne.symm hj))
  have htriangle := abs_sub_le (m : Rat) q j
  rw [abs_sub_comm (m : Rat) q] at htriangle
  exact hgap.trans htriangle

theorem IsRounded.le {q : Rat} {m : Nat} (h : IsRounded q m) (j : Int) : |q - m| ≤ |q - j| := by
  by_cases hj : j = m
  · rw [hj, Int.cast_natCast]
  · have hapart := one_le_dist_add_dist q hj
    linarith [h.near]

theorem IsRounded.even {q : Rat} {m : Nat} (h : IsRounded q m) {j : Int} (hj : j ≠ m)
    (htie : |q - j| = |q - m|) : Even m := by
  apply h.even_of_half
  have hapart := one_le_dist_add_dist q hj
  linarith [h.near]

/-- What is no multiple of a unit lies below all numbers that are rounded at this unit. -/
theorem IsDouble.multiple_or_lt (h : IsDouble x) (e : Int) :
    (∃ j : Int, x = j * 2 ^ e) ∨ (-1074 < e ∧ |x| < 2 ^ (e + 52)) := by
  obtain ⟨k, hk, f, hlow, hhigh, rfl⟩ := h
  rcases le_or_gt e f with hle | hlt
  · left
    obtain ⟨t, rfl⟩ := Int.le.dest hle
    refine ⟨k * 2 ^ t, ?_⟩
    rw [zpow_add₀ (by norm_num), zpow_natCast]
    push_cast
    ring
  · right
    have hk' : |(k : Rat)| < 2 ^ (53 : Int) := by exact_mod_cast hk
    have hpos : (0 : Rat) < 2 ^ f := by positivity
    refine ⟨by omega, ?_⟩
    calc |(k : Rat) * 2 ^ f| = |(k : Rat)| * 2 ^ f := by rw [abs_mul, abs_of_pos hpos]
      _ < 2 ^ (53 : Int) * 2 ^ f := mul_lt_mul_of_pos_right hk' hpos
      _ = 2 ^ (53 + f) := (zpow_add₀ (by norm_num) 53 f).symm
      _ ≤ 2 ^ (e + 52) := zpow_le_zpow_right₀ (by norm_num) (by omega)

/-- Among multiples of the unit the rounded number is nearest; other doubles are further off. -/
theorem isNearest_of_isRounded {m : Nat} (hunit : e = -1074 ∨ 2 ^ (e + 52) ≤ x)
    (hround : IsRounded (x / 2 ^ e) m) (hk : HasSignificand k (m * 2 ^ e))
    (heven : Even m → Even k) : IsNearest x (m * 2 ^ e) := by
  have hpos : (0 : Rat) < 2 ^ e := by positivity
  have hscale : ∀ q : Rat, |x - q * 2 ^ e| = |x / 2 ^ e - q| * 2 ^ e := by
    intro q
    rw [← abs_of_pos hpos, ← abs_mul, abs_of_pos hpos, sub_mul, div_mul_cancel₀ _ hpos.ne']
  have hmultiple : ∀ j : Int, |x - m * 2 ^ e| ≤ |x - j * 2 ^ e| := by
    intro j
    rw [hscale, hscale]
    exact mul_le_mul_of_nonneg_right (hround.le j) hpos.le
  have hother : ∀ c, IsDouble c → (∃ j : Int, c = j * 2 ^ e) ∨ |x - m * 2 ^ e| < |x - c| := by
    intro c hc
    refine (hc.multiple_or_lt e).imp_right ?_
    rintro ⟨hlow, hlt⟩
    have hx : (2 : Rat) ^ (e + 52) ≤ x := hunit.resolve_left (by omega)
    have hleast := hmultiple (2 ^ 52)
    have hbits : ((2 ^ 52 : Int) : Rat) * 2 ^ e = 2 ^ (e + 52) := by
      rw [zpow_add₀ (by norm_num), mul_comm]
      norm_cast
    rw [hbits, abs_of_nonneg (sub_nonneg.mpr hx)] at hleast
    have hc' : c < 2 ^ (e + 52) := lt_of_le_of_lt (le_abs_self c) hlt
    rw [abs_of_nonneg (sub_nonneg.mpr (hc'.le.trans hx))]
    linarith
  refine ⟨⟨k, hk⟩, ?_, ?_⟩
  · intro c hc
    rcases hother c hc with ⟨j, rfl⟩ | hlt
    · exact hmultiple j
    · exact hlt.le
  · intro c hc hne htie
    rcases hother c hc with ⟨j, rfl⟩ | hlt
    · refine ⟨k, heven (hround.even (j := j) ?_ ?_), hk⟩
      · rintro rfl
        exact hne (by rw [Int.cast_natCast])
      · rw [hscale, hscale] at htie
        exact mul_right_cancel₀ hpos.ne' htie
    · exact absurd htie hlt.ne'

/-- The significand that a quotient is rounded to has 53 bits, or is the least one with 54. -/
theorem roundAt_le (hnum : num ≠ 0) (hden : 0 < den) :
    roundAt num den (unitExponent num den) ≤ 2 ^ 53 := by
  have hround := isRounded_roundAt num hden (unitExponent num den)
  have hpos : (0 : Rat) < 2 ^ unitExponent num den := by positivity
  have hlt : (num : Rat) / den / 2 ^ unitExponent num den < 2 ^ 53 := by
    rw [div_lt_iff₀ hpos]
    calc (num : Rat) / den < 2 ^ (floorLog2 num den + 1) := (floorLog2_spec hnum hden).2
      _ ≤ 2 ^ (53 + unitExponent num den) := by
        apply zpow_le_zpow_right₀ (by norm_num)
        rw [unitExponent]
        omega
      _ = 2 ^ 53 * 2 ^ unitExponent num den := by
        rw [zpow_add₀ (by norm_num)]
        norm_cast
  have hnear := (abs_le.mp hround.near).1
  have hcast : (roundAt num den (unitExponent num den) : Rat) < ((2 ^ 53 + 1 : Nat) : Rat) := by
    push_cast
    linarith
  exact Nat.lt_succ_iff.mp (by exact_mod_cast hcast)

/-- A significand of 54 bits is carried over to the next exponent. -/
theorem exists_carried (negative : Bool) (hnum : num ≠ 0) (hden : 0 < den) :
    ∃ (m : Nat) (e : Int), m < 2 ^ 53 ∧ unitExponent num den ≤ e ∧
      (m : Rat) * 2 ^ e =
        roundAt num den (unitExponent num den) * 2 ^ unitExponent num den ∧
      (Even (roundAt num den (unitExponent num den)) → Even m) ∧
      e ≤ unitExponent num den + 1 ∧
      round negative num den = if 971 < e then .infinite negative else .finite negative m e := by
  have hbits := roundAt_le hnum hden
  simp only [round, if_neg hnum]
  generalize roundAt num den (unitExponent num den) = n at *
  generalize unitExponent num den = f
  by_cases hcarry : n = Nat.pow 2 53
  · refine ⟨Nat.pow 2 52, f + 1, by decide, by omega, ?_, fun _ => by decide, le_rfl, ?_⟩
    · rw [hcarry, zpow_add_one₀ (by norm_num)]
      norm_num
      ring
    · rw [if_pos hcarry]
  · refine ⟨n, f, lt_of_le_of_ne hbits hcarry, le_rfl, rfl, id, by omega, ?_⟩
    rw [if_neg hcarry]

theorem isNearest_round {negative s : Bool} {m : Nat} (hnum : num ≠ 0) (hden : 0 < den)
    (h : round negative num den = .finite s m e) :
    s = negative ∧ IsNearest (num / den) (m * 2 ^ e) := by
  have hlow : -1074 ≤ unitExponent num den := le_max_right _ _
  have hunit : unitExponent num den = -1074 ∨
      (2 : Rat) ^ (unitExponent num den + 52) ≤ num / den := by
    rcases max_choice (floorLog2 num den - 52) (-1074) with hfloor | hleast
    · right
      rw [unitExponent, hfloor, sub_add_cancel]
      exact (floorLog2_spec hnum hden).1
    · exact .inl hleast
  obtain ⟨n, f, hbits, hexp, hvalue, heven, -, hround⟩ := exists_carried negative hnum hden
  rw [hround] at h
  split at h
  case isTrue => cases h
  case isFalse hrange =>
    obtain ⟨rfl, rfl, rfl⟩ := Binary64.finite.inj h
    refine ⟨rfl, ?_⟩
    rw [hvalue]
    apply isNearest_of_isRounded (k := n) hunit (isRounded_roundAt num hden _)
    · refine ⟨?_, f, hlow.trans hexp, by omega, hvalue.symm⟩
      rw [Nat.abs_cast]
      exact_mod_cast hbits
    · exact fun hn => (Int.even_coe_nat n).mpr (heven hn)

/-! ### Integers -/

variable {n : Int}

theorem isDouble_intCast (h : n.natAbs ≤ 2 ^ 53) : IsDouble (n : Rat) := by
  rcases Nat.lt_or_eq_of_le h with hlt | heq
  · refine ⟨n, by rw [abs_lt]; omega, 0, by decide, by decide, ?_⟩
    rw [zpow_zero, mul_one]
  · have hhalf : n = n / 2 * 2 := by omega
    refine ⟨n / 2, by rw [abs_lt]; omega, 1, by decide, by decide, ?_⟩
    rw [zpow_one]
    exact_mod_cast hhalf

theorem exists_round_eq_finite (negative : Bool) (hnum : num ≠ 0) (hden : 0 < den)
    (hunit : unitExponent num den < 971) :
    ∃ m e, unitExponent num den ≤ e ∧ round negative num den = .finite negative m e := by
  obtain ⟨m, e, -, hexp, -, -, hcarry, hround⟩ := exists_carried negative hnum hden
  rw [if_neg (by omega)] at hround
  exact ⟨m, e, hexp, hround⟩

theorem truncate?_finite_natCast (negative : Bool) (m t : Nat) :
    (finite negative m t).truncate? =
      some (if negative then -((m * 2 ^ t : Nat) : Int) else ((m * 2 ^ t : Nat) : Int)) := by
  rw [truncate?, ratio, if_pos (Int.natCast_nonneg t), Int.toNat_natCast, Nat.pow_eq, Nat.div_one]

/-- The double nearest to an integer of 64 bits is an integer again, and `ofInt` returns it. -/
theorem exists_nearest_int (h : n.natAbs < 2 ^ 64) :
    ∃ d : Int, (ofInt n).truncate? = some d ∧ IsNearest n d := by
  rcases Nat.lt_or_ge n.natAbs (2 ^ 53) with hsmall | hlarge
  · exact ⟨n, truncate?_ofInt hsmall, (isDouble_intCast hsmall.le).isNearest_self⟩
  · have hn : n.natAbs ≠ 0 := by omega
    have hlow : 53 ≤ n.natAbs.log2 := (Nat.le_log2 hn).mpr hlarge
    have hhigh : n.natAbs.log2 < 64 := (Nat.log2_lt hn).mpr h
    have hunit : unitExponent n.natAbs 1 = n.natAbs.log2 - 52 := by
      rw [unitExponent, floorLog2_one hn]
      omega
    have hrange : unitExponent n.natAbs 1 < 971 := by omega
    obtain ⟨m, e, he, hround⟩ := exists_round_eq_finite (n < 0) hn Nat.one_pos hrange
    obtain ⟨t, rfl⟩ := Int.eq_ofNat_of_zero_le (by omega : 0 ≤ e)
    have hnear := (isNearest_round hn Nat.one_pos hround).2
    rw [zpow_natCast, Nat.cast_one, div_one] at hnear
    rw [ofInt, hround, truncate?_finite_natCast]
    refine ⟨_, rfl, ?_⟩
    rw [Nat.cast_natAbs] at hnear
    by_cases hsign : n < 0
    · rw [abs_of_neg hsign, Int.cast_neg] at hnear
      rw [decide_eq_true hsign, if_pos rfl, ← neg_neg (n : Rat)]
      push_cast
      exact hnear.neg
    · rw [abs_of_nonneg (not_lt.mp hsign)] at hnear
      rw [decide_eq_false hsign, if_neg Bool.false_ne_true]
      push_cast
      exact hnear

end LineHighlight.Binary64
