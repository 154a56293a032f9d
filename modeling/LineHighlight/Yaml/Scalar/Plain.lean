import LineHighlight.Yaml.Scalar.Fold

/-!
Plain scalars: words without quotes.

A plain scalar ends before `: `, before ` #`, before a document mark, where a line starts
further left than the collection around asks for, and inside brackets before one of `,[]{}`.
-/

namespace LineHighlight.Yaml.Plain

/-- The characters that part the entries of a collection in brackets. -/
def isFlowIndicator (c : Char) : Bool :=
  c == ',' || c == '[' || c == ']' || c == '{' || c == '}'

/-- Whether a colon inside brackets is out of place before a character. -/
def misplacesColon (c : Char) : Bool :=
  isFlowIndicator c || c == '?'

/-- The word at the start of a text. Inside brackets a colon right before an indicator is a
fault. -/
def word? (inFlow : Bool) : List Char → Option (List Char)
  | [] => some []
  | c :: rest =>
    if isGap c then some []
    else if inFlow && c == ':' && rest.head?.any misplacesColon then none
    else if c == ':' && rest.head?.all isGap then some []
    else if inFlow && isFlowIndicator c then some []
    else (word? inFlow rest).map (c :: ·)

/-- Whether a tab stands, on a line that the gap starts, left of a column. The second argument
is the column once a line end has come. -/
def tabBefore (indent : Nat) : Option Nat → List Char → Bool
  | _, [] => false
  | column, c :: rest =>
    if isBreak c then tabBefore indent (some 0) rest
    else
      match column with
      | none => tabBefore indent none rest
      | some n => (c == '\t' && n < indent) || tabBefore indent (some (n + 1)) rest

/-- A scalar as it was read. -/
structure Reading where
  text : List Char
  after : Cursor
  /-- Whether the gap behind the last word holds a line end. -/
  brokeLine : Bool

/-- The rest of a scalar behind a word, each word with its gap in front. -/
def more? (inFlow : Bool) (indent : Nat) : Nat → Cursor → Option Reading
  | 0, _ => none
  | fuel + 1, c =>
    let (gap, after) := c.span isGap
    if gap.isEmpty then some ⟨[], c, false⟩
    else if tabBefore indent none gap then none
    else
      let done : Reading := ⟨[], after, gap.any isBreak⟩
      if (!inFlow && after.column < indent) || after.atDocumentMark || after.sees (· == '#') then
        some done
      else do
        let word ← word? inFlow after.rest
        if word.isEmpty then some done
        else
          let r ← more? inFlow indent fuel (after.skip word.length)
          some { r with text := foldGap gap ++ word ++ r.text }

/-- The plain scalar at a cursor. `indent` is the least column of its further lines. -/
def read? (inFlow : Bool) (indent : Nat) (c : Cursor) : Option Reading := do
  let word ← word? inFlow c.rest
  let r ← more? inFlow indent (c.rest.length + 1) (c.skip word.length)
  some { r with text := word ++ r.text }

end LineHighlight.Yaml.Plain
