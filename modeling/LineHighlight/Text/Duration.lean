/-!
Durations as texts.

Whole milliseconds are shown as such below a second and as decimal seconds from there on, and
no time at all as `0ns`.
-/

namespace LineHighlight.Text

/-- Three digits after a point without the zeros at their end, or nothing for zero. -/
def thousandths (n : Nat) : List Char :=
  if n = 0 then []
  else
    let ds := Nat.toDigits 10 n
    let padded := List.replicate (3 - ds.length) '0' ++ ds
    '.' :: (padded.reverse.dropWhile (· == '0')).reverse

/-- A number of milliseconds as a duration. -/
def duration (ms : Nat) : String :=
  if ms = 0 then "0ns"
  else if ms < 1000 then s!"{ms}ms"
  else toString (ms / 1000) ++ String.ofList (thousandths (ms % 1000)) ++ "s"

end LineHighlight.Text
