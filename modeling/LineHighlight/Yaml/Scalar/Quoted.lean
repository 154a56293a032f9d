import LineHighlight.Number.Literal
import LineHighlight.Yaml.Scalar.Fold

/-!
Scalars in quotes.

Between single quotes a quote is written twice. Between double quotes a backslash starts an
escape, and at the end of a line it takes the line end with it. Line ends are folded in both.
-/

namespace LineHighlight.Yaml.Quoted

/-- The escapes of one letter. -/
def shortEscapes : List (Char × Char) :=
  [('0', '\x00'), ('a', '\x07'), ('b', '\x08'), ('t', '\t'), ('\t', '\t'), ('n', '\n'),
    ('v', '\x0b'), ('f', '\x0c'), ('r', '\r'), ('e', '\x1b'), (' ', ' '), ('"', '"'), ('/', '/'),
    ('\\', '\\'), ('N', '\u0085'), ('_', '\u00a0'), ('L', '\u2028'), ('P', '\u2029')]

/-- How many hexadecimal digits an escape takes. -/
def escapeWidth? : Char → Option Nat
  | 'x' => some 2
  | 'u' => some 4
  | 'U' => some 8
  | _ => none

/-- The character with a code, unless the code is no character's. -/
def charOf? (code : Nat) : Option Char :=
  if h : code.isValidChar then some (Char.ofNatAux code h) else none

/-- The character that an escape stands for, and the length of the escape, from the character
behind the backslash on. -/
def escape? : List Char → Option (Char × Nat)
  | [] => none
  | c :: rest =>
    match escapeWidth? c with
    | some width => do
      if rest.length < width then none
      else
        let code ← Numeral.inRadix? 16 (rest.take width)
        let ch ← charOf? code
        some (ch, width + 1)
    | none => (shortEscapes.lookup c).map (·, 1)

/-- A word inside quotes as it was read. -/
structure Word where
  text : List Char
  after : Cursor
  /-- Whether an escaped line end follows. -/
  escapedBreak : Bool

/-- The word at a cursor between single quotes. -/
def singleWord : Nat → Cursor → Word
  | 0, c => ⟨[], c, false⟩
  | fuel + 1, c =>
    match c.rest with
    | [] => ⟨[], c, false⟩
    | '\'' :: '\'' :: _ =>
      let w := singleWord fuel (c.skip 2)
      { w with text := '\'' :: w.text }
    | ch :: _ =>
      if ch = '\'' || isGap ch then ⟨[], c, false⟩
      else
        let w := singleWord fuel c.next
        { w with text := ch :: w.text }

/-- The word at a cursor between double quotes. -/
def doubleWord? : Nat → Cursor → Option Word
  | 0, c => some ⟨[], c, false⟩
  | fuel + 1, c =>
    match c.rest with
    | [] => some ⟨[], c, false⟩
    | ch :: rest =>
      if ch = '\\' then
        if rest.head?.any isBreak then some ⟨[], c.skip 2, true⟩
        else do
          let (escaped, length) ← escape? rest
          let w ← doubleWord? fuel (c.skip (length + 1))
          some { w with text := escaped :: w.text }
      else if ch = '"' || isGap ch then some ⟨[], c, false⟩
      else do
        let w ← doubleWord? fuel c.next
        some { w with text := ch :: w.text }

/-- The word at a cursor before a closing quote. -/
def word? (quote : Char) (fuel : Nat) (c : Cursor) : Option Word :=
  if quote = '"' then doubleWord? fuel c else some (singleWord fuel c)

/-- The text up to the closing quote, and the cursor behind it. A document mark or the end of
the text inside the quotes is a fault. -/
def body? (quote : Char) : Nat → Cursor → Option (List Char × Cursor)
  | 0, _ => none
  | fuel + 1, c =>
    if c.atDocumentMark || c.atEnd then none
    else do
      let w ← word? quote (c.rest.length + 1) c
      if w.after.sees (· == quote) then some (w.text, w.after.next)
      else
        let (gap, after) := w.after.span isGap
        let folded := if w.escapedBreak then foldEscapedGap gap else foldGap gap
        let (text, last) ← body? quote fuel after
        some (w.text ++ folded ++ text, last)

/-- The scalar at a cursor that stands at its opening quote. -/
def read? (quote : Char) (c : Cursor) : Option (List Char × Cursor) :=
  body? quote (c.rest.length + 1) c.next

end LineHighlight.Yaml.Quoted
