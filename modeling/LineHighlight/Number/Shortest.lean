import LineHighlight.Number.Binary64

/-!
Shortest decimal digits of a double.

The digits written for a finite double are the fewest that read back as the same double, and of
those the nearest to it. Candidates with `k` digits are the two neighbours of the value on the
grid of `k`-digit decimals; the first grid with a neighbour that reads back wins.
-/

namespace LineHighlight

/-- A positive decimal `digits * 10 ^ exponent`. -/
structure Decimal where
  digits : Nat
  exponent : Int
deriving DecidableEq, Repr

namespace Decimal

/-- The number of decimal digits of a natural number, one for zero. -/
def digitCount (n : Nat) : Nat :=
  (Nat.toDigits 10 n).length

/-- Drops trailing zeros from the digits, at most `fuel` of them. -/
def stripZeros : Nat → Decimal → Decimal
  | 0, d => d
  | fuel + 1, d =>
    if d.digits ≠ 0 ∧ d.digits % 10 = 0 then
      stripZeros fuel ⟨d.digits / 10, d.exponent + 1⟩
    else d

/-- The exponent of the leading decimal digit of the positive quotient `num / den`. -/
def leadingExponent (num den : Nat) : Int :=
  if den ≤ num then (digitCount (num / den) : Int) - 1
  else
    -- below one: `⌈den / num⌉ - 1` has as many digits as there are leading zeros
    -(digitCount ((den + num - 1) / num - 1) : Int)

/-- The absolute difference of two natural numbers. -/
def gap (a b : Nat) : Nat :=
  (a - b) + (b - a)

/-- The neighbour of `m * 2 ^ e` on the grid of decimals `n * 10 ^ t`, if one reads back as the
double. The reals that do form an interval around it, half a unit to either side and only a
quarter below a power of two, with its ends iff the significand is even. -/
def candidate (m : Nat) (e : Int) (t : Int) : Option Decimal :=
  -- all quantities times four and times both denominators, so that they are natural numbers
  let unit := Binary64.ratio 1 e
  let grid : Nat × Nat := if 0 ≤ t then (Nat.pow 10 t.toNat, 1) else (1, Nat.pow 10 (-t).toNat)
  let value := 4 * m * unit.1 * grid.2
  let step := 4 * grid.1 * unit.2
  let below := (if m = Nat.pow 2 52 ∧ -1074 < e then 1 else 2) * unit.1 * grid.2
  let above := 2 * unit.1 * grid.2
  let lo := value - below
  let hi := value + above
  let inside (x : Nat) : Bool :=
    if m % 2 = 0 then lo ≤ x && x ≤ hi else lo < x && x < hi
  let n := value / step
  let left := n * step
  let right := (n + 1) * step
  let pick (k : Nat) : Option Decimal := some ⟨k, t⟩
  if inside left && 0 < n then
    if inside right then
      if gap value left < gap value right then pick n
      else if gap value right < gap value left then pick (n + 1)
      else pick (n + n % 2)
    else pick n
  else if inside right then pick (n + 1)
  else none

/-- Tries 1, 2, … digits. -/
def search (m : Nat) (e : Int) (lead : Int) : List Nat → Option Decimal
  | [] => none
  | k :: ks =>
    match candidate m e (lead - (k : Int) + 1) with
    | some d => some d
    | none => search m e lead ks

/-- The shortest decimal of the positive double `m * 2 ^ e`. -/
def shortest (m : Nat) (e : Int) : Decimal :=
  let r := Binary64.ratio m e
  match search m e (leadingExponent r.1 r.2) (List.range' 1 17) with
  | some d => stripZeros 400 d
  | none => ⟨r.1 / r.2, 0⟩

end Decimal

/-- How a format lays out the digits of a number. -/
structure NumberFormat where
  /-- Exponents of the leading digit that are written positionally, both ends included. -/
  lowest : Int
  highest : Int
  /-- Whether a whole number written positionally ends in `.0`. -/
  keepPoint : Bool
  /-- The least number of digits of an exponent. -/
  exponentDigits : Nat
  /-- Whether a positive exponent shows its sign. -/
  exponentPlus : Bool
  nan : String
  infinity : String
  /-- Whether a negative zero shows its sign. -/
  signedZero : Bool

namespace NumberFormat

/-- Left-pads with zeros. -/
def padLeft (n : Nat) (cs : List Char) : List Char :=
  List.replicate (n - cs.length) '0' ++ cs

/-- The digits with a point, for a leading digit at `10 ^ lead`. -/
def positional (f : NumberFormat) (ds : List Char) (lead : Int) : List Char :=
  if lead < 0 then
    '0' :: '.' :: List.replicate ((-lead).toNat - 1) '0' ++ ds
  else if ds.length ≤ lead.toNat + 1 then
    ds ++ List.replicate (lead.toNat + 1 - ds.length) '0' ++ (if f.keepPoint then ['.', '0'] else [])
  else
    ds.take (lead.toNat + 1) ++ '.' :: ds.drop (lead.toNat + 1)

/-- The digits with an exponent, for a leading digit at `10 ^ lead`. -/
def scientific (f : NumberFormat) (ds : List Char) (lead : Int) : List Char :=
  let mantissa := match ds with
    | [] => []
    | [d] => [d]
    | d :: rest => d :: '.' :: rest
  let sign := if lead < 0 then ['-'] else if f.exponentPlus then ['+'] else []
  mantissa ++ 'e' :: sign ++ padLeft f.exponentDigits (Nat.toDigits 10 lead.natAbs)

/-- The text of a double. -/
def text (f : NumberFormat) : Binary64 → String
  | .nan => f.nan
  | .infinite negative => (if negative then "-" else "") ++ f.infinity
  | .finite negative m e =>
    if m = 0 then
      (if negative && f.signedZero then "-0" else "0") ++ (if f.keepPoint then ".0" else "")
    else
      let d := Decimal.shortest m e
      let ds := Nat.toDigits 10 d.digits
      let lead : Int := d.exponent + (ds.length : Int) - 1
      let body :=
        if f.lowest ≤ lead ∧ lead ≤ f.highest then f.positional ds lead else f.scientific ds lead
      (if negative then "-" else "") ++ String.ofList body

end NumberFormat

end LineHighlight
