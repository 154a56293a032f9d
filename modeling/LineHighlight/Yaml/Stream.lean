import LineHighlight.Yaml.Scalar.Block
import LineHighlight.Yaml.Scalar.Plain
import LineHighlight.Yaml.Scalar.Quoted
import LineHighlight.Yaml.Token

/-!
The token stream of a document.

Whether a token starts a key shows only at the `:` behind it. Wherever a key may start, the
place is kept as a possible key until the `:` comes, or until the key can no longer be one: it
would span lines or 1024 bytes. Outside brackets, the indentation opens and closes
collections.
-/

namespace LineHighlight.Yaml

/-- A place where a key may have started. -/
structure PossibleKey where
  /-- Whether nothing but a key can stand there. -/
  required : Bool
  /-- The number of tokens in front of it. -/
  place : Nat
  line : Nat
  column : Nat
  index : Nat
deriving DecidableEq, Repr

/-- How far the tokens of a text are read. -/
structure Stream where
  cursor : Cursor
  tokens : Array Token := #[]
  /-- The column of the innermost collection outside brackets; before the first column if there
  is none. -/
  indent : Int := -1
  /-- The columns of the collections around it, from the inside. -/
  outer : List Int := []
  /-- The possible key of the innermost collection. -/
  possible : Option PossibleKey := none
  /-- Those around the open brackets, from the inside. -/
  enclosing : List (Option PossibleKey) := []
  /-- Whether a key may start here. -/
  keyAllowed : Bool := true
deriving Repr

namespace Stream

/-- Whether a bracket is open. -/
def inFlow (s : Stream) : Bool :=
  !s.enclosing.isEmpty

/-- Puts a token at the end. -/
def push (s : Stream) (t : Token) : Stream :=
  { s with tokens := s.tokens.push t }

/-- Puts a token of some characters at the end. -/
def pushPast (s : Stream) (length : Nat) (t : Token) : Stream :=
  { s.push t with cursor := s.cursor.skip length }

/-! ## Indentation -/

/-- Opens a collection at a column, unless one is open there; its token goes to a place. -/
def openBlock (s : Stream) (column place : Nat) (t : Token) : Stream :=
  if !s.inFlow && s.indent < column then
    { s with
      indent := column
      outer := s.indent :: s.outer
      tokens := s.tokens.insertIdxIfInBounds place t }
  else s

/-- The collections that stay open at a column, with an end token for each that does not. -/
def closing (column : Int) : Int → List Int → Array Token → Int × List Int × Array Token
  | indent, [], tokens => (indent, [], tokens)
  | indent, next :: outer, tokens =>
    if column < indent then closing column next outer (tokens.push .blockEnd)
    else (indent, next :: outer, tokens)

/-- Closes the collections to the right of a column. -/
def closeBlocks (s : Stream) (column : Int) : Stream :=
  if s.inFlow then s
  else
    let (indent, outer, tokens) := closing column s.indent s.outer s.tokens
    { s with indent, outer, tokens }

/-! ## Possible keys -/

/-- Forgets the possible key. One that nothing else can stand for is a fault. -/
def forgetKey? (s : Stream) : Option Stream :=
  if s.possible.any (·.required) then none else some { s with possible := none }

/-- Keeps the place of the cursor as a possible key, where one is allowed. -/
def keepKey? (s : Stream) : Option Stream :=
  if !s.keyAllowed then some s
  else do
    let s ← s.forgetKey?
    let c := s.cursor
    let required := !s.inFlow && s.indent == (c.column : Int)
    some { s with possible := some ⟨required, s.tokens.size, c.line, c.column, c.index⟩ }

/-- Whether a possible key can no longer be one when the text is read up to a cursor. -/
def isStale (c : Cursor) (k : PossibleKey) : Bool :=
  k.line < c.line || k.index + 1024 < c.index

/-- A possible key, if it still can be one. -/
def fresh (c : Cursor) (k : Option PossibleKey) : Option PossibleKey :=
  k.filter fun k => !isStale c k

/-- Forgets the possible keys that can no longer be keys. -/
def forgetStale? (s : Stream) : Option Stream :=
  if (s.possible :: s.enclosing).any fun k => k.any fun k => isStale s.cursor k && k.required then
    none
  else
    some { s with possible := fresh s.cursor s.possible
                  enclosing := s.enclosing.map (fresh s.cursor) }

/-! ## Between tokens -/

/-- Moves to the next token, over blanks, comments and line ends, and over a byte-order mark at
the start of a line, which takes up a column. Outside brackets a key may start on a new line, and
tabs are passed over only where none may start. -/
def approach : Nat → Stream → Stream
  | 0, s => s
  | fuel + 1, s =>
    let c := s.cursor
    let c := if c.column == 0 && c.sees (· == byteOrderMark) then c.next else c
    let c := c.skipWhile fun ch => ch == ' ' || ((s.inFlow || !s.keyAllowed) && ch == '\t')
    let c := if c.sees (· == '#') then c.skipWhile (!isBreak ·) else c
    if c.sees isBreak then
      approach fuel { s with cursor := c.next, keyAllowed := s.keyAllowed || !s.inFlow }
    else { s with cursor := c }

/-! ## Tokens -/

/-- A bracket that opens a collection. It may start a key. -/
def openFlow? (s : Stream) (t : Token) : Option Stream := do
  let s ← s.keepKey?
  some { s.pushPast 1 t with
         possible := none, enclosing := s.possible :: s.enclosing, keyAllowed := true }

/-- A bracket that closes a collection. -/
def closeFlow? (s : Stream) (t : Token) : Option Stream := do
  let s ← s.forgetKey?
  let s := match s.enclosing with
    | [] => s
    | k :: rest => { s with possible := k, enclosing := rest }
  some { s.pushPast 1 t with keyAllowed := false }

/-- A comma between entries in brackets. -/
def comma? (s : Stream) : Option Stream := do
  let s ← s.forgetKey?
  some { s.pushPast 1 .comma with keyAllowed := true }

/-- The dash in front of an item. -/
def item? (s : Stream) : Option Stream :=
  if !s.inFlow && !s.keyAllowed then none
  else do
    let s ← (s.openBlock s.cursor.column s.tokens.size .blockSequence).forgetKey?
    some { s.pushPast 1 .item with keyAllowed := true }

/-- The question mark in front of a key. -/
def key? (s : Stream) : Option Stream :=
  if !s.inFlow && !s.keyAllowed then none
  else do
    let s ← (s.openBlock s.cursor.column s.tokens.size .blockMapping).forgetKey?
    some { s.pushPast 1 .key with keyAllowed := !s.inFlow }

/-- The colon in front of a value. The possible key in front of it becomes a key. -/
def value? (s : Stream) : Option Stream :=
  match s.possible with
  | some k =>
    let s := { s with tokens := s.tokens.insertIdxIfInBounds k.place .key }
    let s := s.openBlock k.column k.place .blockMapping
    some { s.pushPast 1 .value with possible := none, keyAllowed := false }
  | none =>
    if !s.inFlow && !s.keyAllowed then none
    else
      let s := s.openBlock s.cursor.column s.tokens.size .blockMapping
      some { s.pushPast 1 .value with keyAllowed := !s.inFlow }

/-- A token that may start a key, and the cursor behind it. -/
def keyStart? (s : Stream) (read : Cursor → Option (Token × Cursor)) : Option Stream := do
  let s ← s.keepKey?
  let (t, after) ← read s.cursor
  some { s.push t with cursor := after, keyAllowed := false }

/-- The name of an anchor or a reference. -/
def name? (make : String → Token) (s : Stream) : Option Stream :=
  s.keyStart? fun c => (anchorName? c.next).map fun r => (make r.1, r.2)

/-- A tag. -/
def tag? (s : Stream) : Option Stream :=
  s.keyStart? fun c => (Tag.read? s.inFlow c).map fun r => (.tag r.1, r.2)

/-- A scalar in quotes. -/
def quoted? (quote : Char) (s : Stream) : Option Stream :=
  s.keyStart? fun c =>
    (Quoted.read? quote c).map fun r => (.scalar (String.ofList r.1) .quoted, r.2)

/-- A plain scalar. Behind its last line end a key may start. -/
def plain? (s : Stream) : Option Stream := do
  let s ← s.keepKey?
  let r ← Plain.read? s.inFlow (s.indent + 1).toNat s.cursor
  some { s.push (.scalar (String.ofList r.text) .plain) with
         cursor := r.after, keyAllowed := r.brokeLine }

/-- A block scalar. -/
def block? (style : Style) (s : Stream) : Option Stream := do
  let s ← s.forgetKey?
  let (text, after) ← Block.read? (s.indent + 1).toNat s.cursor
  some { s.push (.scalar (String.ofList text) style) with cursor := after, keyAllowed := true }

/-- Ends all collections outside brackets, as a directive, a document mark and the end of the
text do. -/
def closeAll? (s : Stream) : Option Stream := do
  let s ← (s.closeBlocks (-1)).forgetKey?
  some { s with keyAllowed := false }

/-- A directive. -/
def directive? (s : Stream) : Option Stream := do
  let s ← s.closeAll?
  let (t, after) ← Token.directive? s.cursor
  some { s.push t with cursor := after }

/-- A mark at which a document starts or ends. -/
def mark? (s : Stream) (t : Token) : Option Stream := do
  let s ← s.closeAll?
  some (s.pushPast 3 t)

/-- Whether a plain scalar may start with a character before another one. -/
def startsPlain (inFlow : Bool) (c : Char) (next : Option Char) : Bool :=
  if c == '-' then !next.any isBlank
  else if c == '?' || c == ':' then !inFlow && !next.all isGap
  else !isGap c && c != '\x60' && !",[]\x7b\x7d#&*!|>'\"%@".toList.contains c

/-- The token at the cursor, by its first characters. -/
def token? (s : Stream) (c : Char) : Option Stream :=
  let inFlow := s.inFlow
  let gapNext := s.cursor.gapAt 1
  if s.cursor.column == 0 && c == '%' then s.directive?
  else if s.cursor.atMark '-' then s.mark? .documentStart
  else if s.cursor.atMark '.' then s.mark? .documentEnd
  else if c == '[' then s.openFlow? .flowSequence
  else if c == '\x7b' then s.openFlow? .flowMapping
  else if c == ']' then s.closeFlow? .flowSequenceEnd
  else if c == '\x7d' then s.closeFlow? .flowMappingEnd
  else if c == ',' then s.comma?
  else if c == '-' && gapNext then s.item?
  else if c == '?' && (inFlow || gapNext) then s.key?
  else if c == ':' && (inFlow || gapNext) then s.value?
  else if c == '*' then s.name? .reference
  else if c == '&' then s.name? .anchor
  else if c == '!' then s.tag?
  else if c == '|' && !inFlow then s.block? .literal
  else if c == '>' && !inFlow then s.block? .folded
  else if c == '\'' || c == '"' then s.quoted? c
  else if startsPlain inFlow c (s.cursor.peek 1) then s.plain?
  else none

/-- Reads all tokens. -/
def run? : Nat → Stream → Option (List Token)
  | 0, _ => none
  | fuel + 1, s => do
    let s ← (approach (s.cursor.rest.length + 1) s).forgetStale?
    let s := s.closeBlocks s.cursor.column
    match s.cursor.rest.head? with
    | none => (s.closeAll?).map fun s => s.tokens.toList
    | some c => do
      let s ← s.token? c
      run? fuel s

end Stream

/-- The tokens of a text, if it is made up of tokens. -/
def tokens? (text : String) : Option (List Token) := do
  let c ← Cursor.ofText? text
  Stream.run? (c.rest.length + 1) { cursor := c }

end LineHighlight.Yaml
