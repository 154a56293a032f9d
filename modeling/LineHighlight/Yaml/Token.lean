import LineHighlight.Yaml.Tag

/-!
The tokens of a YAML document.

A collection that is laid out by indentation has tokens for its start and its end as one in
brackets does. A key has a token in front of it wherever it is, also where nothing is written
for it.
-/

namespace LineHighlight.Yaml

/-- How a scalar is written. -/
inductive Style where
  | plain
  | quoted
  | literal
  | folded
deriving DecidableEq, Repr, Inhabited

/-- A token. -/
inductive Token where
  /-- The version of the language, from a directive. -/
  | version (major minor : Nat)
  /-- A handle and what it stands for, from a directive. -/
  | handle (name : String) (stands : Tag.Name)
  | documentStart
  | documentEnd
  | blockSequence
  | blockMapping
  | blockEnd
  | flowSequence
  | flowSequenceEnd
  | flowMapping
  | flowMappingEnd
  /-- The dash in front of an item. -/
  | item
  | comma
  | key
  | value
  | anchor (name : String)
  | reference (name : String)
  | tag (tag : Tag.Written)
  | scalar (text : String) (style : Style)
deriving DecidableEq, Repr

namespace Token

/-- The digits of a version's part at a cursor: between one and nine. -/
def versionPart? (c : Cursor) : Option (Nat × Cursor) :=
  let (ds, after) := c.span Char.isDigit
  if ds.isEmpty || 9 < ds.length then none else some (Numeral.natOfDigits ds, after)

/-- The version in a directive. -/
def version? (c : Cursor) : Option (Token × Cursor) := do
  let (major, c) ← versionPart? (c.skipWhile isBlank)
  if !c.sees (· == '.') then none
  else
    let (minor, c) ← versionPart? c.next
    some (.version major minor, c)

/-- The handle in a directive, and what it stands for. -/
def handle? (c : Cursor) : Option (Token × Cursor) := do
  let c := c.skipWhile isBlank
  if !c.sees (· == '!') then none
  else
    let (name, c) := Tag.handle c
    if !(name = "!" || Tag.isClosed name) || !c.sees isBlank then none
    else
      let (run, stands, c) ← Tag.uri? true (c.skipWhile isBlank)
      if run.isEmpty || !c.gapAt 0 then none else some (.handle name stands, c)

/-- The directive at a cursor that stands at its `%`, and the cursor at the line below. -/
def directive? (c : Cursor) : Option (Token × Cursor) := do
  let (name, after) := c.next.span isNameChar
  if !after.gapAt 0 then none
  else
    let (token, after) ←
      match String.ofList name with
      | "YAML" => version? after
      | "TAG" => handle? after
      | _ => none
    let below ← after.restOfLine?
    some (token, below)

end Token

end LineHighlight.Yaml
