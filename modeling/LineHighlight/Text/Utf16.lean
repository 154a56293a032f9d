/-!
Texts as sequences of 16-bit units.

A script's string is any sequence of 16-bit units. Every text has one such sequence, in which a
character beyond the first plane takes two units, a high surrogate and a low one. A sequence is
the form of a text iff each of its surrogates stands in such a pair.
-/

namespace LineHighlight.Text

/-- A 16-bit unit. -/
abbrev Unit16 := UInt16

/-- High surrogates open a pair. -/
def isHighSurrogate (u : Unit16) : Bool :=
  0xd800 ≤ u.toNat && u.toNat < 0xdc00

/-- Low surrogates close a pair. -/
def isLowSurrogate (u : Unit16) : Bool :=
  0xdc00 ≤ u.toNat && u.toNat < 0xe000

/-- The units of one character. -/
def unitsOfChar (c : Char) : List Unit16 :=
  if c.toNat < 0x10000 then [UInt16.ofNat c.toNat]
  else
    [UInt16.ofNat (0xd800 + (c.toNat - 0x10000) / 0x400),
     UInt16.ofNat (0xdc00 + (c.toNat - 0x10000) % 0x400)]

/-- The units of a list of characters. -/
def unitsOfChars (cs : List Char) : List Unit16 :=
  cs.flatMap unitsOfChar

/-- The units of a text. -/
def units (s : String) : List Unit16 :=
  unitsOfChars s.toList

/-- The character that a surrogate pair stands for. -/
def charOfPair (high low : Unit16) : Char :=
  Char.ofNat (0x10000 + (high.toNat - 0xd800) * 0x400 + (low.toNat - 0xdc00))

/-- Reads units from the left into characters and surrogates that stand alone. -/
def scalars : List Unit16 → List (Char ⊕ Unit16)
  | [] => []
  | [u] =>
    if isHighSurrogate u || isLowSurrogate u then [.inr u] else [.inl (Char.ofNat u.toNat)]
  | u :: v :: rest =>
    if isHighSurrogate u then
      if isLowSurrogate v then .inl (charOfPair u v) :: scalars rest
      else .inr u :: scalars (v :: rest)
    else if isLowSurrogate u then .inr u :: scalars (v :: rest)
    else .inl (Char.ofNat u.toNat) :: scalars (v :: rest)

/-- Whether every surrogate stands in a pair. -/
def isPaired (us : List Unit16) : Bool :=
  (scalars us).all Sum.isLeft

/-- The text of a sequence of units, if it is the form of one. -/
def ofUnits? (us : List Unit16) : Option String :=
  if isPaired us then
    some (String.ofList ((scalars us).filterMap fun | .inl c => some c | .inr _ => none))
  else none

end LineHighlight.Text
