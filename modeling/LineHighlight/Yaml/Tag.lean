import LineHighlight.Number.Literal
import LineHighlight.Text.Utf8
import LineHighlight.Yaml.Cursor

/-!
Names of anchors and of tags.

A tag is written whole between `!<` and `>`, or as a handle with a suffix. The handle says
what goes in front of the suffix: `!` and `!!` have something of their own, and a directive gives
something to others. A tag's name is made of bytes, which need not make up a text, and ends at
the first zero.
-/

namespace LineHighlight.Yaml

/-- Whether an anchor's name may end before a character. -/
def endsAnchor (c : Char) : Bool :=
  isGap c || "?:,]\x7d%@".toList.contains c || c == '\x60'

/-- The name of an anchor or of a reference at a cursor. -/
def anchorName? (c : Cursor) : Option (String × Cursor) :=
  let (name, after) := c.span isNameChar
  if name.isEmpty || !after.rest.head?.all endsAnchor then none
  else some (String.ofList name, after)

namespace Tag

/-- The name of a tag, or a part of it. -/
abbrev Name := List UInt8

/-- The name in front of the standard types. -/
def standard : Name :=
  Text.utf8 "tag:yaml.org,2002:"

/-- The name that says nothing. -/
def bare : Name :=
  Text.utf8 "!"

/-- A tag as it is written. -/
structure Written where
  /-- Empty for a tag that needs nothing in front of its suffix. -/
  handle : String
  suffix : Name
deriving DecidableEq, Repr

/-- The handles that need no directive, with what they stand for. -/
def standardHandles : List (String × Name) :=
  [("!", bare), ("!!", standard)]

/-- The tag's full name, unless its handle has no meaning. -/
def Written.name? (handles : List (String × Name)) (t : Written) : Option Name :=
  if t.handle = "" then some t.suffix
  else ((handles ++ standardHandles).lookup t.handle).map (· ++ t.suffix)

/-- The characters of a tag's name. The indicators of collections are among them where the end
of the name is marked. -/
def isUriChar (delimited : Bool) (c : Char) : Bool :=
  isNameChar c || ";/?:@&=+$.%!~*\'()".toList.contains c ||
    (delimited && (c == ',' || c == '[' || c == ']'))

/-- The number of bytes of a character, by its first byte. -/
def byteCount? (first : Nat) : Option Nat :=
  if first < 0x80 then some 1
  else if 0xc0 ≤ first ∧ first < 0xe0 then some 2
  else if 0xe0 ≤ first ∧ first < 0xf0 then some 3
  else if 0xf0 ≤ first ∧ first < 0xf8 then some 4
  else none

/-- The byte at the start of a text, written as `%` and two hexadecimal digits. -/
def escapedByte? : List Char → Option Nat
  | '%' :: a :: b :: _ => Numeral.inRadix? 16 [a, b]
  | _ => none

/-- Bytes that continue a character. -/
def trailing? : Nat → List Char → Option (List Nat)
  | 0, _ => some []
  | n + 1, cs => do
    let byte ← escapedByte? cs
    if 0x80 ≤ byte ∧ byte < 0xc0 then (trailing? n (cs.drop 3)).map (byte :: ·) else none

/-- The bytes of an escaped character at the start of a text. -/
def escapedChar? (cs : List Char) : Option (List Nat) := do
  let first ← escapedByte? cs
  let count ← byteCount? first
  (trailing? (count - 1) (cs.drop 3)).map (first :: ·)

/-- The bytes that a run of name characters stands for. -/
def decode? : Nat → List Char → Option (List UInt8)
  | _, [] => some []
  | 0, _ :: _ => none
  | fuel + 1, c :: rest =>
    if c = '%' then do
      let bytes ← escapedChar? (c :: rest)
      (decode? fuel ((c :: rest).drop (3 * bytes.length))).map (bytes.map UInt8.ofNat ++ ·)
    else (decode? fuel rest).map (Text.utf8 (String.singleton c) ++ ·)

/-- The characters of a tag's name at a cursor, with the bytes that they stand for. -/
def uri? (delimited : Bool) (c : Cursor) : Option (List Char × Name × Cursor) := do
  let (run, after) := c.span (isUriChar delimited)
  let bytes ← decode? run.length run
  some (run, bytes.takeWhile (· != 0), after)

/-- A handle at a cursor that stands at a `!`: name characters, and another `!` if one
follows. -/
def handle (c : Cursor) : String × Cursor :=
  let (name, after) := c.next.span isNameChar
  let closed := after.sees (· == '!')
  (String.ofList ('!' :: name ++ if closed then ['!'] else []), if closed then after.next else after)

/-- Whether a handle ends in a `!` of its own. -/
def isClosed (handle : String) : Bool :=
  2 ≤ handle.length && handle.toList.getLast? == some '!'

/-- The tag at a cursor that stands at its `!`. It ends at a gap, inside brackets also at a
comma. -/
def read? (inFlow : Bool) (c : Cursor) : Option (Written × Cursor) := do
  let (tag, after) ←
    if c.peek 1 = some '<' then do
      let (run, name, after) ← uri? true (c.skip 2)
      if run.isEmpty || !after.sees (· == '>') then none
      else some ((⟨"", name⟩ : Written), after.next)
    else
      let (handle, behind) := handle c
      let (run, suffix, after) ← uri? false behind
      if isClosed handle then
        if run.isEmpty then none else some ((⟨handle, suffix⟩ : Written), after)
      else
        let suffix := (Text.utf8 handle).drop 1 ++ suffix
        some ((if suffix.isEmpty then ⟨"", bare⟩ else ⟨"!", suffix⟩ : Written), after)
  if after.gapAt 0 || (inFlow && after.sees (· == ',')) then some (tag, after) else none

end Tag

end LineHighlight.Yaml
