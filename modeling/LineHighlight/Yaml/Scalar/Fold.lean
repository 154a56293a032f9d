import LineHighlight.Yaml.Cursor

/-!
Folding of line ends inside a scalar.

Between two words of a scalar stands a gap of blanks and line ends. Without a line end the gap
is kept. With one, the blanks around go: a single line feed becomes a space, and of several the
first goes. A line end of another kind is kept.
-/

namespace LineHighlight.Yaml

/-- What stands for the line ends of a gap. -/
def foldBreaks : List Char → List Char
  | [] => []
  | b :: more =>
    if b = '\n' then (if more.isEmpty then [' '] else more) else b :: more

/-- What stands for a gap between two words. -/
def foldGap (gap : List Char) : List Char :=
  let breaks := gap.filter isBreak
  if breaks.isEmpty then gap else foldBreaks breaks

/-- What stands for a gap behind an escaped line end: its other line ends. -/
def foldEscapedGap (gap : List Char) : List Char :=
  gap.filter isBreak

end LineHighlight.Yaml
