/-!
Places in the text of a YAML document.

A document holds printable characters only. Every way to end a line is read as one line feed,
apart from the line and paragraph separators, which end a line and stay what they are. A cursor
is the text from a place on, with the line, the column and the index of that place.
-/

namespace LineHighlight.Yaml

/-- Whether a character may stand in a document. -/
def isPrintable (c : Char) : Bool :=
  let n := c.toNat
  n == 0x09 || n == 0x0a || n == 0x0d || (0x20 ≤ n && n ≤ 0x7e) || n == 0x85 ||
    (0xa0 ≤ n && n ≤ 0xd7ff) || (0xe000 ≤ n && n ≤ 0xfffd) || 0x10000 ≤ n

/-- The mark of the byte order. -/
def byteOrderMark : Char := '\ufeff'

/-- One line feed for every way to end a line that is read as one. -/
def unifyBreaks : List Char → List Char
  | [] => []
  | '\r' :: '\n' :: rest => '\n' :: unifyBreaks rest
  | c :: rest => (if c = '\r' ∨ c = '\u0085' then '\n' else c) :: unifyBreaks rest

/-- Whether a character ends a line. -/
def isBreak (c : Char) : Bool :=
  c == '\n' || c == '\u2028' || c == '\u2029'

/-- A space or a tab. -/
def isBlank (c : Char) : Bool :=
  c == ' ' || c == '\t'

/-- A blank or the end of a line. -/
def isGap (c : Char) : Bool :=
  isBlank c || isBreak c

/-- The characters of names: of anchors, of directives and of tag handles. -/
def isNameChar (c : Char) : Bool :=
  c.isAlphanum || c == '_' || c == '-'

/-- The text from a place on, and the place. -/
structure Cursor where
  rest : List Char
  line : Nat := 0
  column : Nat := 0
  /-- How many bytes the text before takes. -/
  index : Nat := 0
deriving DecidableEq, Repr, Inhabited

namespace Cursor

/-- The cursor behind the next character. -/
def next (c : Cursor) : Cursor :=
  match c.rest with
  | [] => c
  | ch :: rest =>
    if isBreak ch then ⟨rest, c.line + 1, 0, c.index + ch.utf8Size⟩
    else ⟨rest, c.line, c.column + 1, c.index + ch.utf8Size⟩

/-- The cursor some characters on. -/
def skip : Nat → Cursor → Cursor
  | 0, c => c
  | n + 1, c => skip n c.next

/-- The longest run of characters with a property, and the cursor behind it. -/
def span (p : Char → Bool) (c : Cursor) : List Char × Cursor :=
  let run := c.rest.takeWhile p
  (run, c.skip run.length)

/-- The cursor behind the characters with a property. -/
def skipWhile (p : Char → Bool) (c : Cursor) : Cursor :=
  (c.span p).2

/-- The character some places on. -/
def peek (c : Cursor) (n : Nat) : Option Char :=
  c.rest[n]?

/-- Whether the text is at its end. -/
def atEnd (c : Cursor) : Bool :=
  c.rest.isEmpty

/-- Whether a character with a property comes next. -/
def sees (c : Cursor) (p : Char → Bool) : Bool :=
  c.rest.head?.any p

/-- Whether a gap or the end of the text stands some places on. -/
def gapAt (c : Cursor) (n : Nat) : Bool :=
  (c.peek n).all isGap

/-- Whether a line ends here. -/
def lineEnds (c : Cursor) : Bool :=
  c.rest.head?.all isBreak

/-- Whether a document mark stands here: three times the same character alone at the start of
a line. -/
def atMark (ch : Char) (c : Cursor) : Bool :=
  c.column == 0 && c.rest.take 3 == [ch, ch, ch] && c.gapAt 3

/-- Whether a document starts or ends here. -/
def atDocumentMark (c : Cursor) : Bool :=
  c.atMark '-' || c.atMark '.'

/-- The cursor behind the blanks and the comment that end a line, if nothing else does. -/
def restOfLine? (c : Cursor) : Option Cursor :=
  let c := c.skipWhile isBlank
  let c := if c.sees (· == '#') then c.skipWhile (!isBreak ·) else c
  if c.lineEnds then some c.next else none

/-- The start of a document, if it holds printable characters only. -/
def ofText? (s : String) : Option Cursor :=
  if s.toList.all isPrintable then some { rest := unifyBreaks s.toList } else none

end Cursor

end LineHighlight.Yaml
