import LineHighlight.Yaml.Node
import LineHighlight.Yaml.Stream

/-!
The document in a text.

Tokens make up a single document or they are at fault. Where a node may be left out, the empty
scalar stands for it.
-/

namespace LineHighlight.Yaml

/-- What is known while a document is read: the tokens to come, the numbers of the anchors by
name, and what the tag handles stand for. -/
structure Reader where
  tokens : List Token
  anchors : List (String × Nat) := []
  handles : List (String × Tag.Name) := []

/-- A part of a document, read from the tokens. -/
abbrev Parse := StateT Reader Option

namespace Parse

/-- The next token. -/
def peek : Parse (Option Token) := do
  return (← get).tokens.head?

/-- Passes over a token. -/
def skip : Parse Unit :=
  modify fun r => { r with tokens := r.tokens.drop 1 }

/-- Whether a certain token comes next. -/
def sees (t : Token) : Parse Bool := do
  return (← peek) == some t

/-- Whether one of some tokens comes next. -/
def seesAny (ts : List Token) : Parse Bool := do
  return (← peek).any ts.contains

/-- Passes over a certain token, if it comes next. -/
def skipIf (t : Token) : Parse Bool := do
  if ← sees t then
    skip
    return true
  else return false

/-- Passes over a certain token; any other is a fault. -/
def expect (t : Token) : Parse Unit := do
  if !(← skipIf t) then failure

/-! ## What stands in front of a node -/

/-- The number of an anchor, with the name known from then on. -/
def define (name : String) : Parse Nat := do
  let known := (← get).anchors
  let others := known.filter fun a => a.1 != name
  modify fun r => { r with anchors := others ++ [(name, known.length)] }
  return known.length

/-- An anchor, if one comes next. -/
def anchor? : Parse (Option Nat) := do
  match ← peek with
  | some (.anchor name) =>
    skip
    return some (← define name)
  | _ => return none

/-- A tag, if one comes next. A handle without a meaning is a fault. -/
def tag? : Parse (Option Tag.Name) := do
  match ← peek with
  | some (.tag t) =>
    skip
    match t.name? (← get).handles with
    | some name => return some name
    | none => failure
  | _ => return none

/-- The properties in front of a node, in either order. -/
def properties : Parse Properties := do
  let first ← anchor?
  let tag ← tag?
  let anchor ← if first.isSome || tag.isNone then pure first else anchor?
  return ⟨tag, anchor⟩

/-- The properties of a scalar. The tag `!` says no more than that the scalar is none of the
others. -/
def ofScalar (p : Properties) : Properties :=
  if p.tag = some Tag.bare then { p with tag := none } else p

/-! ## Nodes -/

/-- Where a node stands, which decides how it may be laid out. -/
inductive Place where
  | inFlow
  | inBlock
  /-- As a key or a value, where the items of a sequence need no indentation of their own. -/
  | inEntry
deriving DecidableEq, Repr

mutual

/-- A node. -/
def node : Nat → Place → Parse Node
  | 0, _ => failure
  | fuel + 1, place => do
    match ← peek with
    | some (.reference name) =>
      skip
      match (← get).anchors.lookup name with
      | some number => return .reference number
      | none => failure
    | _ =>
      let p ← properties
      match ← peek, place with
      | some (.scalar text style), _ =>
        skip
        return .scalar (ofScalar p) text style
      | some .flowSequence, _ =>
        skip
        return .sequence p (← flowItems fuel true)
      | some .flowMapping, _ =>
        skip
        return .mapping p (← flowEntries fuel true)
      | some .item, .inEntry => return .sequence p (← looseItems fuel)
      | some .blockSequence, .inBlock | some .blockSequence, .inEntry =>
        skip
        return .sequence p (← blockItems fuel)
      | some .blockMapping, .inBlock | some .blockMapping, .inEntry =>
        skip
        return .mapping p (← blockEntries fuel)
      | _, _ => if p = {} then failure else return .scalar p "" .plain

/-- A node, unless one of some tokens comes next. -/
def nodeUnless : Nat → Place → List Token → Parse Node
  | 0, _, _ => failure
  | fuel + 1, place, ends => do
    if ← seesAny ends then return .empty
    else node fuel place

/-- The items of a sequence that is laid out by indentation. -/
def blockItems : Nat → Parse (List Node)
  | 0 => failure
  | fuel + 1 => do
    if ← skipIf .item then
      let n ← nodeUnless fuel .inBlock [.item, .blockEnd]
      return n :: (← blockItems fuel)
    else
      expect .blockEnd
      return []

/-- The items of a sequence without an indentation of its own. -/
def looseItems : Nat → Parse (List Node)
  | 0 => failure
  | fuel + 1 => do
    if ← skipIf .item then
      let n ← nodeUnless fuel .inBlock [.item, .key, .value, .blockEnd]
      return n :: (← looseItems fuel)
    else return []

/-- The entries of a mapping that is laid out by indentation. -/
def blockEntries : Nat → Parse (List (Node × Node))
  | 0 => failure
  | fuel + 1 => do
    if ← skipIf .key then
      let k ← nodeUnless fuel .inEntry [.key, .value, .blockEnd]
      let v ←
        if ← skipIf .value then nodeUnless fuel .inEntry [.key, .value, .blockEnd]
        else pure .empty
      return (k, v) :: (← blockEntries fuel)
    else
      expect .blockEnd
      return []

/-- The items of a sequence in brackets. An item with a key is a mapping of one entry. -/
def flowItems : Nat → Bool → Parse (List Node)
  | 0, _ => failure
  | fuel + 1, first => do
    if ← skipIf .flowSequenceEnd then return []
    if !first then expect .comma
    if ← skipIf .key then
      let entry ← pair fuel
      return .mapping {} [entry] :: (← flowItems fuel false)
    else if ← skipIf .flowSequenceEnd then return []
    else
      let n ← node fuel .inFlow
      return n :: (← flowItems fuel false)

/-- The entry of an item with a key. When the key is left out, the token that shows it is passed
over. -/
def pair : Nat → Parse (Node × Node)
  | 0 => failure
  | fuel + 1 => do
    let k ←
      if ← seesAny [.value, .comma, .flowSequenceEnd] then do
        skip
        pure .empty
      else node fuel .inFlow
    let v ←
      if ← skipIf .value then nodeUnless fuel .inFlow [.comma, .flowSequenceEnd]
      else pure .empty
    return (k, v)

/-- The entries of a mapping in brackets. -/
def flowEntries : Nat → Bool → Parse (List (Node × Node))
  | 0, _ => failure
  | fuel + 1, first => do
    if ← skipIf .flowMappingEnd then return []
    if !first then expect .comma
    if ← skipIf .key then
      let k ← nodeUnless fuel .inFlow [.value, .comma, .flowMappingEnd]
      let v ←
        if ← skipIf .value then nodeUnless fuel .inFlow [.comma, .flowMappingEnd]
        else pure .empty
      return (k, v) :: (← flowEntries fuel false)
    else if ← skipIf .flowMappingEnd then return []
    else
      let k ← node fuel .inFlow
      return (k, .empty) :: (← flowEntries fuel false)

end

/-! ## Documents -/

/-- The directives in front of a document, at most one version among them. A handle that is
given twice is a fault, as is a version other than 1.1 and 1.2. -/
def directives : Nat → Bool → Parse Unit
  | 0, _ => failure
  | fuel + 1, versioned => do
    match ← peek with
    | some (.version major minor) =>
      if versioned || major != 1 || !(minor == 1 || minor == 2) then failure
      skip
      directives fuel true
    | some (.handle name stands) =>
      let r ← get
      if (r.handles.lookup name).isSome then failure
      set { r with handles := r.handles ++ [(name, stands)] }
      skip
      directives fuel versioned
    | _ => return ()

/-- Whether a document has a mark at its start. -/
def marksStart : Token → Bool
  | .version _ _ | .handle _ _ | .documentStart => true
  | _ => false

/-- Whether a document with a mark at its start has no content before a token. -/
def endsContent : Token → Bool
  | .documentEnd => true
  | t => marksStart t

/-- The single document. Marks at its end may be repeated; nothing may come behind them. -/
def document : Parse Document := do
  let fuel := 4 * (← get).tokens.length + 4
  match ← peek with
  | none => return ⟨none⟩
  | some t =>
    let root ←
      if marksStart t then do
        directives fuel false
        expect .documentStart
        if (← peek).all endsContent then pure .empty else node fuel .inBlock
      else node fuel .inBlock
    modify fun r => { r with tokens := r.tokens.dropWhile (· == .documentEnd) }
    if (← peek).isNone then return ⟨some root⟩ else failure

end Parse

/-- The document in a text, if there is exactly one and it is well-formed. -/
def Document.read? (text : String) : Option Document := do
  let tokens ← tokens? text
  (Parse.document.run { tokens }).map Prod.fst

end LineHighlight.Yaml
