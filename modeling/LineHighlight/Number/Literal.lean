import LineHighlight.Number.Binary64
import LineHighlight.Text.Blank

/-!
Numerals in texts.

Two readers turn a text into a double. The plain one takes a decimal numeral with an optional
sign, or a name of infinity or of no number in any case. The script one takes the numerals of a
script's number conversion: blanks around, radix letters, `Infinity` in exactly that spelling,
and nothing at all for zero.
-/

namespace LineHighlight.Numeral

/-- The value of a run of decimal digits. -/
def natOfDigits (ds : List Char) : Nat :=
  ds.foldl (fun n c => n * 10 + (c.toNat - 48)) 0

/-- Splits off an optional sign; `true` is a minus. -/
def sign : List Char → Bool × List Char
  | '+' :: rest => (false, rest)
  | '-' :: rest => (true, rest)
  | cs => (false, cs)

/-- An exponent part up to the end of the text: none, or `e` with a sign and digits. -/
def exponent? : List Char → Option Int
  | [] => some 0
  | c :: rest =>
    if c = 'e' ∨ c = 'E' then
      let (negative, ds) := sign rest
      if ds.isEmpty || !ds.all Char.isDigit then none
      else some (if negative then -(natOfDigits ds : Int) else natOfDigits ds)
    else none

/-- An unsigned decimal numeral: digits with an optional point, at least one digit in all, and
an optional exponent. -/
def decimal? (negative : Bool) (cs : List Char) : Option Binary64 :=
  let whole := cs.takeWhile Char.isDigit
  let rest := cs.dropWhile Char.isDigit
  let (fraction, rest) := match rest with
    | '.' :: r => (r.takeWhile Char.isDigit, r.dropWhile Char.isDigit)
    | r => ([], r)
  if whole.isEmpty && fraction.isEmpty then none
  else
    (exponent? rest).map fun e =>
      Binary64.ofDecimal negative (natOfDigits (whole ++ fraction)) (e - (fraction.length : Int))

/-- A decimal numeral with an optional sign, or `inf`, `infinity` or `nan` in any case. -/
def plain? (s : String) : Option Binary64 :=
  let (negative, cs) := sign s.toList
  let name := String.ofList (cs.map Char.toLower)
  if name = "inf" ∨ name = "infinity" then some (.infinite negative)
  else if name = "nan" then some .nan
  else decimal? negative cs

/-- The value of a digit in a radix up to sixteen. -/
def digit? (radix : Nat) (c : Char) : Option Nat :=
  let v :=
    if c.isDigit then c.toNat - 48
    else if 'a' ≤ c ∧ c ≤ 'f' then c.toNat - 87
    else if 'A' ≤ c ∧ c ≤ 'F' then c.toNat - 55
    else 16
  if v < radix then some v else none

/-- A nonempty run of digits in a radix. -/
def digits? (radix : Nat) (cs : List Char) : Option (List Nat) :=
  if cs.isEmpty then none else cs.mapM (digit? radix)

/-- The number of digits in a radix. -/
def value (radix : Nat) (ds : List Nat) : Nat :=
  ds.foldl (fun n d => n * radix + d) 0

/-- The number of a nonempty run of digits in a radix. -/
def inRadix? (radix : Nat) (cs : List Char) : Option Nat :=
  (digits? radix cs).map (value radix)

/-- The letters after a zero that name a radix, and the text after them. -/
def radix? : List Char → Option (Nat × List Char)
  | '0' :: 'x' :: ds | '0' :: 'X' :: ds => some (16, ds)
  | '0' :: 'o' :: ds | '0' :: 'O' :: ds => some (8, ds)
  | '0' :: 'b' :: ds | '0' :: 'B' :: ds => some (2, ds)
  | _ => none

/-- The leading digits that fit into a word of 64 bits, as a number, and how many digits come
after them. -/
def leading (radix : Nat) (ds : List Nat) : Nat × Nat :=
  ds.foldl
    (fun (n, rest) d =>
      if n ≤ (Nat.pow 2 64 - radix) / radix then (n * radix + d, rest) else (n, rest + 1))
    (0, 0)

/-- The double of digits in a radix. Only the leading ones count: their number is rounded, and
each digit after them multiplies it by the radix. -/
def doubleOfDigits (radix : Nat) (ds : List Nat) : Binary64 :=
  let (n, rest) := leading radix ds
  (Binary64.ofInt n).mul (Binary64.ofInt (Nat.pow radix rest))

/-- The number that a script makes of a text. -/
def script (s : String) : Binary64 :=
  let cs := (Text.trimBy Text.isScriptBlank s).toList
  if cs.isEmpty then Binary64.zero false
  else
    match radix? cs with
    | some (radix, ds) => ((digits? radix ds).map (doubleOfDigits radix)).getD .nan
    | none =>
      let (negative, ds) := sign cs
      if ds = "Infinity".toList then .infinite negative
      else (decimal? negative ds).getD .nan

/-- The integer that a script makes of a text: digits in a radix without a sign, or decimal
ones with an optional sign, with blanks around; nothing at all is zero. -/
def integer? (s : String) : Option Int :=
  let cs := (Text.trimBy Text.isScriptBlank s).toList
  if cs.isEmpty then some 0
  else
    match radix? cs with
    | some (radix, ds) => (inRadix? radix ds).map Int.ofNat
    | none =>
      let (negative, ds) := sign cs
      (inRadix? 10 ds).map fun n => if negative then -(n : Int) else n

end LineHighlight.Numeral
