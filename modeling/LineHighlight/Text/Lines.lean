/-!
Lines of a text.

A text is cut at every line feed and at nothing else, so a carriage return stays with its
line and a text with `n` line feeds has `n + 1` lines, the empty text among them.
-/

namespace LineHighlight.Text

/-- Cuts a list at every separator. The result is never empty. -/
def cutAt {α : Type} [BEq α] (sep : α) : List α → List (List α)
  | [] => [[]]
  | x :: rest =>
    if x == sep then
      [] :: cutAt sep rest
    else
      match cutAt sep rest with
      | [] => [[x]]
      | line :: lines => (x :: line) :: lines

/-- The lines of a text. -/
def lines (s : String) : List String :=
  (cutAt '\n' s.toList).map String.ofList

theorem cutAt_ne_nil {α : Type} [BEq α] (sep : α) (xs : List α) : cutAt sep xs ≠ [] := by
  cases xs with
  | nil => simp [cutAt]
  | cons x rest =>
      simp only [cutAt]
      split
      · simp
      · split <;> simp

theorem lines_ne_nil (s : String) : lines s ≠ [] := by
  simp [lines, cutAt_ne_nil]

/-- The text up to its first line feed. -/
def firstLine (s : String) : String :=
  String.ofList (s.toList.takeWhile (· != '\n'))

end LineHighlight.Text
