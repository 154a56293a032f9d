import LineHighlight.Yaml.Scalar.Fold

/-!
Block scalars: whole lines below a `|` or a `>`.

The lines of a block scalar share an indentation, given in its header or found on its first
line that is not empty. A literal one keeps its line ends; a folded one joins lines that start
without a blank. What becomes of the line ends behind the last line is up to the header.
-/

namespace LineHighlight.Yaml.Block

/-- What becomes of the line ends behind the last line. -/
inductive Chomping where
  /-- All go. -/
  | strip
  /-- One stays. -/
  | clip
  /-- All stay. -/
  | keep
deriving DecidableEq, Repr

/-- The header of a block scalar. -/
structure Header where
  chomping : Chomping := .clip
  /-- How much further right the lines stand than the collection around. -/
  increment : Option Nat := none
deriving DecidableEq, Repr

/-- The chomping indicator at a cursor. -/
def chomping? (c : Cursor) : Option Chomping :=
  match c.rest.head? with
  | some '+' => some .keep
  | some '-' => some .strip
  | _ => none

/-- The digit at a cursor. -/
def digit? (c : Cursor) : Option Nat :=
  match c.rest.head? with
  | some d => if d.isDigit then some (d.toNat - 48) else none
  | none => none

/-- The header at a cursor behind the `|` or `>`, with its indicators in either order, and the
cursor at the line below. An indentation of zero is a fault. -/
def header? (c : Cursor) : Option (Header × Cursor) := do
  let first := chomping? c
  let c := if first.isSome then c.next else c
  let increment := digit? c
  let c := if increment.isSome then c.next else c
  let second := if first.isSome || increment.isNone then none else chomping? c
  let c := if second.isSome then c.next else c
  if increment = some 0 then none
  else
    let below ← c.restOfLine?
    some (⟨(first <|> second).getD .clip, increment⟩, below)

/-- Empty lines as they were read. -/
structure Gap where
  breaks : List Char
  /-- The rightmost column that was reached. -/
  reach : Nat
  after : Cursor

/-- The empty lines at a cursor and the indentation behind them, at most up to `limit` if there
is one. A tab in the indentation is a fault. -/
def gap? (limit : Option Nat) : Nat → Cursor → Option Gap
  | 0, _ => none
  | fuel + 1, c =>
    let spaces := (c.rest.takeWhile (· == ' ')).length
    let c := c.skip (match limit with | some n => min spaces (n - c.column) | none => spaces)
    if c.sees (· == '\t') && (limit.all fun n => c.column < n) then none
    else
      match c.rest with
      | b :: _ =>
        if isBreak b then do
          let g ← gap? limit fuel c.next
          some { g with breaks := b :: g.breaks, reach := max c.column g.reach }
        else some ⟨[], c.column, c⟩
      | [] => some ⟨[], c.column, c⟩

/-- What is left open behind a line: its own line end, the empty lines below it, and whether it
starts with a blank. -/
structure Pending where
  lineEnd : List Char := []
  empty : List Char := []
  startsBlank : Bool := false

/-- What stands between two lines. -/
def joint (folded : Bool) (p : Pending) (startsBlank : Bool) : List Char :=
  if folded && p.lineEnd == ['\n'] && !p.startsBlank && !startsBlank then
    (if p.empty.isEmpty then [' '] else []) ++ p.empty
  else p.lineEnd ++ p.empty

/-- The lines at a cursor, with what is open behind the last one. -/
def lines? (folded : Bool) (indent : Nat) :
    Nat → Pending → Cursor → Option (List Char × Pending × Cursor)
  | 0, _, _ => none
  | fuel + 1, p, c =>
    if c.column ≠ indent || c.atEnd then some ([], p, c)
    else do
      let startsBlank := c.sees isBlank
      let (line, c) := c.span (!isBreak ·)
      let lineEnd := c.rest.head?.toList
      let g ← gap? (some indent) (c.rest.length + 1) c.next
      let (text, last, after) ← lines? folded indent fuel ⟨lineEnd, g.breaks, startsBlank⟩ g.after
      some (joint folded p startsBlank ++ line ++ text, last, after)

/-- What of the open line ends stays. -/
def chomp (ch : Chomping) (p : Pending) : List Char :=
  match ch with
  | .strip => []
  | .clip => p.lineEnd
  | .keep => p.lineEnd ++ p.empty

/-- The scalar at a cursor that stands at its `|` or `>`. `floor` is the least column that its
lines may have, one more than that of the collection around. -/
def read? (floor : Nat) (c : Cursor) : Option (List Char × Cursor) := do
  let folded := c.sees (· == '>')
  let (h, c) ← header? c.next
  let limit := h.increment.map fun n => floor - 1 + n
  let g ← gap? limit (c.rest.length + 1) c
  let indent := limit.getD (max g.reach (max floor 1))
  let (text, last, after) ←
    lines? folded indent (c.rest.length + 1) { empty := g.breaks } g.after
  some (text ++ chomp h.chomping last, after)

end LineHighlight.Yaml.Block
