/-!
Double-precision numbers, exactly.

A finite double is a signed significand times a power of two, and every operation is the exact
one followed by one rounding to the nearest double, ties to the even significand. All of it is
arithmetic on natural numbers and integers.
-/

namespace LineHighlight

/-- A double. In a finite one that `round` makes, the significand is below `2 ^ 53`, the
exponent lies between -1074 and 971, and one of the two is as large as the value allows. -/
inductive Binary64 where
  | nan
  | infinite (negative : Bool)
  | finite (negative : Bool) (significand : Nat) (exponent : Int)
deriving DecidableEq, Repr, Inhabited

namespace Binary64

/-- The quotient rounded to the nearest natural number, a tie to the even one. -/
def roundDiv (num den : Nat) : Nat :=
  if 2 * (num % den) < den then num / den
  else if den < 2 * (num % den) then num / den + 1
  else num / den + num / den % 2

/-- `pow2Le den num k` decides `den * 2 ^ k ≤ num`. -/
def pow2Le (den num : Nat) (k : Int) : Bool :=
  if 0 ≤ k then den * Nat.pow 2 k.toNat ≤ num else den ≤ num * Nat.pow 2 (-k).toNat

/-- The floor of the binary logarithm of a positive quotient. -/
def floorLog2 (num den : Nat) : Int :=
  let k : Int := num.log2 - den.log2
  if pow2Le den num k then k else k - 1

/-- The exponent at which a positive quotient is rounded: it leaves 53 bits, fewer near zero. -/
def unitExponent (num den : Nat) : Int :=
  max (floorLog2 num den - 52) (-1074)

/-- A positive quotient in units of `2 ^ e`, rounded. -/
def roundAt (num den : Nat) (e : Int) : Nat :=
  if 0 ≤ e then roundDiv num (den * Nat.pow 2 e.toNat) else roundDiv (num * Nat.pow 2 (-e).toNat) den

/-- Zero with a sign. -/
def zero (negative : Bool) : Binary64 :=
  .finite negative 0 (-1074)

/-- The double nearest to a signed quotient of natural numbers. -/
def round (negative : Bool) (num den : Nat) : Binary64 :=
  if num = 0 then zero negative
  else
    let e := unitExponent num den
    let m := roundAt num den e
    let (m, e) := if m = Nat.pow 2 53 then (Nat.pow 2 52, e + 1) else (m, e)
    if 971 < e then .infinite negative else .finite negative m e

/-- The double nearest to an integer. -/
def ofInt (n : Int) : Binary64 :=
  round (n < 0) n.natAbs 1

/-- The double nearest to `± digits * 10 ^ exponent`. Exponents so large or so small that the
result is infinite or zero whatever the digits are settled without a power of ten. -/
def ofDecimal (negative : Bool) (digits : Nat) (exponent : Int) : Binary64 :=
  if digits = 0 then zero negative
  else if 310 < exponent then .infinite negative
  else if exponent + (digits.log2 : Int) < -1100 then zero negative
  else if 0 ≤ exponent then round negative (digits * Nat.pow 10 exponent.toNat) 1
  else round negative digits (Nat.pow 10 (-exponent).toNat)

/-- Numerator and denominator of the magnitude of a finite double. -/
def ratio (significand : Nat) (exponent : Int) : Nat × Nat :=
  if 0 ≤ exponent then (significand * Nat.pow 2 exponent.toNat, 1)
  else (significand, Nat.pow 2 (-exponent).toNat)

/-- The product of two doubles. -/
def mul : Binary64 → Binary64 → Binary64
  | .nan, _ | _, .nan => .nan
  | .infinite s, .infinite t => .infinite (s != t)
  | .infinite s, .finite t m _ | .finite t m _, .infinite s =>
    if m = 0 then .nan else .infinite (s != t)
  | .finite s m e, .finite t n f =>
    let a := ratio m e
    let b := ratio n f
    round (s != t) (a.1 * b.1) (a.2 * b.2)

/-- The quotient of two doubles. -/
def div : Binary64 → Binary64 → Binary64
  | .nan, _ | _, .nan => .nan
  | .infinite _, .infinite _ => .nan
  | .infinite s, .finite t _ _ => .infinite (s != t)
  | .finite s _ _, .infinite t => zero (s != t)
  | .finite s m e, .finite t n f =>
    if n = 0 then (if m = 0 then .nan else .infinite (s != t))
    else
      let a := ratio m e
      let b := ratio n f
      round (s != t) (a.1 * b.2) (a.2 * b.1)

/-- The number with the opposite sign. -/
def neg : Binary64 → Binary64
  | .nan => .nan
  | .infinite s => .infinite (!s)
  | .finite s m e => .finite (!s) m e

def isFinite : Binary64 → Bool
  | .finite .. => true
  | _ => false

def isInfinite : Binary64 → Bool
  | .infinite _ => true
  | _ => false

/-- Whether the number is a zero of either sign. -/
def isZero : Binary64 → Bool
  | .finite _ m _ => m == 0
  | _ => false

/-- The integer part of a finite double, toward zero; `none` for the others. -/
def truncate? : Binary64 → Option Int
  | .finite negative m e =>
    let q : Nat := (ratio m e).1 / (ratio m e).2
    some (if negative then -(q : Int) else q)
  | _ => none

/-- The integer part reduced modulo `2 ^ 32` into the signed 32-bit range; a number that is not
finite gives zero. -/
def toInt32 (x : Binary64) : Int :=
  match x.truncate? with
  | some n => n.bmod (Nat.pow 2 32)
  | none => 0

end Binary64

end LineHighlight
