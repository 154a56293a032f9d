import LineHighlight.Json.Reader
import Mathlib.Algebra.Ring.Nat
import Mathlib.Data.List.Basic

/-! Decimal digits and their reading.
A 64-bit integer reads back from its digits exactly, without a double in between. -/

namespace LineHighlight.Json

open Nat (toDigits ofDigitChars)

/-! ## Digits -/

theorem ofDigitChars_ge_start {ds : List Char} (n : Nat) : n ≤ ofDigitChars 10 ds n := by
  rw [Nat.ofDigitChars_eq_ofDigitChars_zero]
  exact Nat.le_add_right_of_le (Nat.le_mul_of_pos_left n (Nat.pow_pos (by decide)))

theorem digitChar_eq_zero_iff : ∀ d < 10, d.digitChar = '0' ↔ d = 0 := by
  decide

/-- Only the number zero starts with a zero. -/
theorem head_toDigits_ne_zero {n : Nat} (hn : 0 < n) : (toDigits 10 n).head? ≠ some '0' := by
  induction n using Nat.strong_induction_on with
  | _ n ih =>
      rcases Nat.lt_or_ge n 10 with hsmall | hlarge
      · rw [Nat.toDigits_of_lt_base hsmall]
        have hdigit := digitChar_eq_zero_iff n hsmall
        intro h
        exact Nat.ne_of_gt hn (hdigit.mp (by simpa using h))
      · have hshorter := ih (n / 10) (by omega) (by omega)
        rw [Nat.toDigits_of_base_le (by decide) hlarge,
          List.head?_append_of_ne_nil _ Nat.toDigits_ne_nil]
        exact hshorter

theorem toDigits_eq_cons (n : Nat) :
    ∃ c ds, toDigits 10 n = c :: ds ∧ c.isDigit = true ∧ (c = '0' → ds = []) := by
  cases h : toDigits 10 n with
  | nil => exact absurd h Nat.toDigits_ne_nil
  | cons c ds =>
      refine ⟨c, ds, rfl, ?_, ?_⟩
      · exact Nat.isDigit_of_mem_toDigits (by decide) (by decide) (h ▸ List.mem_cons_self)
      · rintro rfl
        rcases Nat.eq_zero_or_pos n with rfl | hn
        · simpa using h.symm
        · exact absurd (by rw [h, List.head?_cons]) (head_toDigits_ne_zero hn)

/-! ## What ends a numeral -/

/-- A rest of a text that does not go on with a numeral before it. -/
def EndsNumeral (rest : List Char) : Prop :=
  ∀ c ∈ rest.head?, c.isDigit = false ∧ c ≠ '.' ∧ c ≠ 'e' ∧ c ≠ 'E'

theorem endsNumeral_nil : EndsNumeral [] := by
  simp [EndsNumeral]

theorem endsNumeral_comma (rest : List Char) : EndsNumeral (',' :: rest) := by
  simp [EndsNumeral, Char.isDigit]

theorem endsNumeral_brace (rest : List Char) : EndsNumeral ('}' :: rest) := by
  simp [EndsNumeral, Char.isDigit]

theorem EndsNumeral.dropWhile_isDigit {rest : List Char} (h : EndsNumeral rest) :
    rest.dropWhile Char.isDigit = rest := by
  cases rest with
  | nil => rfl
  | cons c rest => simp [(h c rfl).1]

/-! ## Reading -/

theorem takeDigits_of_ends {rest : List Char} (h : EndsNumeral rest) (n k : Nat) :
    takeDigits n k rest = (n, k, rest) := by
  cases rest with
  | nil => rfl
  | cons c rest => simp [takeDigits, (h c rfl).1]

/-- All digits are taken as long as their number fits the significand. -/
theorem takeDigits_append {ds rest : List Char} (hds : ∀ c ∈ ds, c.isDigit = true)
    (hrest : EndsNumeral rest) (n k : Nat) (hfit : ofDigitChars 10 ds n < significandLimit) :
    takeDigits n k (ds ++ rest) = (ofDigitChars 10 ds n, k + ds.length, rest) := by
  induction ds generalizing n k with
  | nil => simp [takeDigits_of_ends hrest]
  | cons c ds ih =>
      have hnext : n * 10 + (c.toNat - 48) = 10 * n + (c.toNat - '0'.toNat) := by
        rw [Nat.mul_comm]; rfl
      rw [Nat.ofDigitChars_cons, ← hnext] at hfit ⊢
      have hstep : n * 10 + (c.toNat - 48) < significandLimit :=
        Nat.lt_of_le_of_lt (ofDigitChars_ge_start _) hfit
      rw [List.cons_append, takeDigits, if_pos (hds c List.mem_cons_self), if_pos hstep,
        ih (fun d hd => hds d (List.mem_cons_of_mem c hd)) _ _ hfit]
      simp [Nat.add_comm, Nat.add_left_comm]

theorem takeDigits_toDigits {n : Nat} (hn : n < significandLimit) {rest : List Char}
    (hrest : EndsNumeral rest) :
    takeDigits 0 0 (toDigits 10 n ++ rest) = (n, (toDigits 10 n).length, rest) := by
  have hvalue : ofDigitChars 10 (toDigits 10 n) 0 = n := Nat.ofDigitChars_ten_toDigits
  rw [takeDigits_append _ hrest, hvalue, Nat.zero_add]
  · rwa [hvalue]
  · intro c hc
    exact Nat.isDigit_of_mem_toDigits (by decide) (by decide) hc

/-- The digits of a 64-bit natural number, with a sign in front or without, are all that is
read of a numeral. -/
theorem readNumber_toDigits (scale : Scaling) (negative : Bool) {n : Nat}
    (hn : n < significandLimit) {rest : List Char} (hrest : EndsNumeral rest) :
    readNumber scale negative (toDigits 10 n ++ rest) =
      if negative then
        if n = 0 ∨ Nat.pow 2 63 < n then .ok (.double (Binary64.ofInt n).neg, rest)
        else .ok (.integer (-(n : Int)), rest)
      else .ok (.integer n, rest) := by
  have htake := takeDigits_toDigits hn hrest
  obtain ⟨c, ds, hcons, hdigit, hzero⟩ := toDigits_eq_cons n
  rw [hcons, List.cons_append] at htake ⊢
  have hleading : ¬ (c = '0' ∧ (ds ++ rest).head?.any Char.isDigit) := by
    rintro ⟨rfl, hany⟩
    rw [hzero rfl, List.nil_append] at hany
    cases rest with
    | nil => simp at hany
    | cons d rest => simp [(hrest d rfl).1] at hany
  simp only [readNumber, hdigit, Bool.not_true, Bool.false_eq_true, if_false, if_neg hleading,
    htake, hrest.dropWhile_isDigit, Nat.sub_self]
  cases rest with
  | nil => simp
  | cons d rest =>
      obtain ⟨-, hpoint, hlower, hupper⟩ := hrest d rfl
      simp [hpoint, hlower, hupper]

end LineHighlight.Json
