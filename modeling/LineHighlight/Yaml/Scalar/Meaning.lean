import LineHighlight.Decode.Fault
import LineHighlight.Number.Literal

/-!
What a plain scalar means.

A plain scalar may be a word for nothing, a truth value, an integer, a double, or else a
string. Integers are decimal without zeros in front, or have a radix letter behind a zero. They
stay exact up to 128 bits and are doubles beyond.
-/

namespace LineHighlight.Yaml

/-- Whether a text is a word for nothing. -/
def isNull (s : String) : Bool :=
  ["null", "Null", "NULL", "~"].contains s

/-- The truth value that a text is a word for. -/
def truth? (s : String) : Option Bool :=
  if ["true", "True", "TRUE"].contains s then some true
  else if ["false", "False", "FALSE"].contains s then some false
  else none

/-- Whether digits start with a zero that a number would not have. -/
def hasLeadingZero (ds : List Char) : Bool :=
  1 < ds.length && ds.head? == some '0' && ds.all Char.isDigit

/-- An integer without its sign. -/
def magnitude? : List Char → Option Nat
  | '0' :: 'x' :: ds => Numeral.inRadix? 16 ds
  | '0' :: 'o' :: ds => Numeral.inRadix? 8 ds
  | '0' :: 'b' :: ds => Numeral.inRadix? 2 ds
  | ds => if hasLeadingZero ds then none else Numeral.inRadix? 10 ds

/-- An integer without a minus. -/
def unsigned? (s : String) : Option Nat :=
  match s.toList with
  | '+' :: ds => magnitude? ds
  | ds => magnitude? ds

/-- An integer with a sign or without, up to 128 bits. -/
def integer? (s : String) : Option Found :=
  match s.toList with
  | '-' :: ds =>
    (magnitude? ds).bind fun n =>
      if n ≤ Nat.pow 2 63 then some (.integer (-(n : Int)))
      else if n ≤ Nat.pow 2 127 then some (.wideInteger (-(n : Int)) "i128")
      else none
  | _ =>
    (unsigned? s).bind fun n =>
      if n < Nat.pow 2 64 then some (.integer n)
      else if n < Nat.pow 2 128 then some (.wideInteger n "u128")
      else none

/-- Whether a text starts with a sign. -/
def startsSigned (cs : List Char) : Bool :=
  cs.head? == some '+' || cs.head? == some '-'

/-- A double: a word for infinity or for no number, or a decimal numeral of finite value. -/
def double? (s : String) : Option Binary64 :=
  let body := if s.toList.head? == some '+' then s.toList.drop 1 else s.toList
  let unsigned := String.ofList body
  if s.toList.head? == some '+' && startsSigned body then none
  else if [".inf", ".Inf", ".INF"].contains unsigned then some (.infinite false)
  else if ["-.inf", "-.Inf", "-.INF"].contains s then some (.infinite true)
  else if [".nan", ".NaN", ".NAN"].contains s then some .nan
  else (Numeral.plain? unsigned).filter Binary64.isFinite

/-- What a plain scalar means. -/
def meaning (s : String) : Found :=
  let digits := if startsSigned s.toList then s.toList.drop 1 else s.toList
  if s = "" || isNull s then .unit
  else
    match truth? s, integer? s with
    | some b, _ => .boolean b
    | none, some found => found
    | none, none =>
      if hasLeadingZero digits then .string s
      else
        match double? s with
        | some x => .double x
        | none => .string s

end LineHighlight.Yaml
