import LineHighlight.Number.Shortest
import LineHighlight.Yaml.Node
import LineHighlight.Yaml.Scalar.Meaning

/-!
Typed decoding of YAML nodes.

A record is decoded from a mapping, or from nothing at all. Its entries are taken in the order
written: the first that cannot be decoded, and a known key that comes again, is the fault. Keys
that the record does not have are skipped with their values. A fault tells where in the document
it is.
-/

namespace LineHighlight.Yaml

/-- Doubles are written positionally and keep `.0`. -/
def doubleFormat : NumberFormat where
  lowest := -400
  highest := 400
  keepPoint := true
  exponentDigits := 1
  exponentPlus := false
  nan := "NaN"
  infinity := "inf"
  signedZero := true

/-- Nothing is called a unit value. -/
def wording : Wording where
  unit := "unit value"
  double := doubleFormat.text

/-- A fault with its place, as the keys that lead there. -/
structure Misfit where
  path : List String
  fault : DecodeFault
deriving DecidableEq, Repr

/-- The wording of a fault with its place. -/
def Misfit.message (m : Misfit) : String :=
  let text := m.fault.message wording
  if m.path.isEmpty then text else ".".intercalate m.path ++ ": " ++ text

/-- Where a node is decoded. -/
structure Spot where
  /-- The tree that references point into. -/
  root : Node
  path : List String := []

namespace Spot

/-- A fault at a spot. -/
def misfit {α : Type} (spot : Spot) (fault : DecodeFault) : Except Misfit α :=
  .error ⟨spot.path, fault⟩

/-- The spot of the mapping around. -/
def around (spot : Spot) : Spot :=
  { spot with path := spot.path.dropLast }

/-- The spot of a value under a key. -/
def under (spot : Spot) (key : String) : Spot :=
  { spot with path := spot.path ++ [key] }

end Spot

/-- A typed reading of a node. -/
abbrev Decoder (α : Type) := Spot → Node → Except Misfit α

/-- The tag of a scalar that stands for one of the standard types. -/
def standardTag (name : String) : Tag.Name :=
  Tag.standard ++ Text.utf8 name

/-- Whether a tag is one that a document makes up. -/
def isLocal (tag : Tag.Name) : Bool :=
  Tag.bare.isPrefixOf tag

/-- Why a scalar is not what was expected. A standard tag decides what the scalar is, and is at
fault itself if the text cannot be that. -/
def scalarFault (p : Properties) (text : String) (style : Style) (expected : String) :
    DecodeFault :=
  let forced (found : Option Found) (type : String) : DecodeFault :=
    match found with
    | some f => .invalidType f expected
    | none => .invalidValue (.string text) type
  let untagged : DecodeFault :=
    .invalidType (if style = .plain then meaning text else .string text) expected
  match p.tag with
  | none => untagged
  | some tag =>
    if tag = standardTag "bool" then forced ((truth? text).map Found.boolean) "a boolean"
    else if tag = standardTag "int" then forced (integer? text) "an integer"
    else if tag = standardTag "float" then forced ((double? text).map Found.double) "a float"
    else if tag = standardTag "null" then
      forced (if isNull text then some Found.unit else none) "null"
    else if isLocal tag then untagged
    else .invalidType (.string text) expected

/-- Why a node is not what was expected. -/
def fault (n : Node) (expected : String) : DecodeFault :=
  match n with
  | .scalar p text style => scalarFault p text style expected
  | .sequence _ _ => .invalidType .sequence expected
  | .mapping _ _ => .invalidType .map expected
  | .reference _ => .invalidType .unit expected

/-! ## Scalars -/

/-- The text of any scalar; `expected` names what the text is for. -/
def textAs (expected : String) : Decoder String := fun spot n =>
  match spot.root.follow n with
  | .scalar _ text _ => .ok text
  | other => spot.misfit (fault other expected)

/-- The text of any scalar. -/
def text : Decoder String :=
  textAs "a string"

/-- Whether a scalar may be an integer. -/
def mayBeInteger (p : Properties) (style : Style) : Bool :=
  style == .plain || (style == .literal && p.tag == some (standardTag "int"))

/-- The number below a limit that a scalar is. -/
def numberBelow? (limit : Nat) (p : Properties) (text : String) (style : Style) : Option Nat :=
  if mayBeInteger p style then (unsigned? text).filter (· < limit) else none

/-- A natural number below a limit; `expected` names its type. -/
def unsigned (expected : String) (limit : Nat) : Decoder Nat := fun spot n =>
  match spot.root.follow n with
  | .scalar p text style =>
    match numberBelow? limit p text style with
    | some v => .ok v
    | none => spot.misfit (scalarFault p text style expected)
  | other => spot.misfit (fault other expected)

/-- Nothing for an empty plain scalar or a word for nothing. The tag of nothing asks for such a
word. -/
def optional {α : Type} (d : Decoder α) : Decoder (Option α) := fun spot n =>
  match spot.root.follow n with
  | .scalar p text .plain =>
    match p.tag with
    | none => if text = "" || isNull text then .ok none else (d spot n).map some
    | some tag =>
      if tag = standardTag "null" then
        if isNull text then .ok none
        else spot.around.misfit (.invalidValue (.string text) "null")
      else (d spot n).map some
  | _ => (d spot n).map some

/-! ## Variants -/

/-- The variant that the tag of a node names, if its name is a text. -/
def taggedVariant? (n : Node) : Option String :=
  n.properties.tag.bind fun tag =>
    if tag = Tag.bare then some "!"
    else if isLocal tag then Text.ofUtf8? (tag.drop 1)
    else none

/-- A value that holds nothing, under a tag. -/
def nothing : Decoder Unit := fun spot n =>
  match n with
  | .scalar _ text style =>
    if style = .plain ∧ (text = "" ∨ isNull text) then .ok ()
    else spot.misfit (.invalidValue (.string text) "null")
  | other => spot.misfit (fault other "unit")

/-- One of named variants: its name as a scalar, or as the tag of nothing. -/
def enum {α : Type} (known : List (String × α)) : Decoder α := fun spot n =>
  let n := spot.root.follow n
  match taggedVariant? n, n with
  | some name, _ =>
    match variant known name with
    | .ok v => (nothing spot n).map fun _ => v
    | .error f => spot.around.misfit f
  | none, .scalar _ text _ =>
    match variant known text with
    | .ok v => .ok v
    | .error f => spot.misfit f
  | none, other => spot.misfit (fault other "a YAML tag starting with '!'")

/-! ## Records -/

/-- A field that is given in a document. -/
structure Field where
  name : String
  /-- How the field is called in the place of a fault. -/
  called : String
  value : Node

/-- The name that a key gives, and how it is called in the place of a fault. -/
def keyName (spot : Spot) (key : Node) : Except Misfit (String × String) :=
  match spot.root.follow key, key with
  | .scalar _ text _, .scalar _ _ _ => .ok (text, text)
  | .scalar _ text _, _ => .ok (text, "?")
  | other, _ => spot.misfit (fault other "field identifier")

/-- Whether a value can be decoded. -/
def checks {α : Type} (d : Decoder α) : Decoder Unit :=
  fun spot n => (d spot n).map fun _ => ()

/-- Takes the entries in the order written, with the names that came already. -/
def takeFields (spot : Spot) (known : List (String × Decoder Unit)) :
    List String → List (Node × Node) → Except Misfit (List Field)
  | _, [] => .ok []
  | seen, (key, value) :: rest => do
    let (name, called) ← keyName spot key
    match known.find? (fun p => p.1 == name) with
    | none => takeFields spot known seen rest
    | some p =>
      if seen.contains name then spot.misfit (.duplicateField name)
      else
        p.2 (spot.under called) value
        let fields ← takeFields spot known (name :: seen) rest
        .ok (⟨name, called, value⟩ :: fields)

/-- The field with a name, or what stands for one that is absent. -/
def field {α : Type} (spot : Spot) (fields : List Field) (name : String) (d : Decoder α)
    (fallback : α) : Except Misfit α :=
  match fields.find? (fun f => f.name == name) with
  | some f => d (spot.under f.called) f.value
  | none => .ok fallback

/-- A record with a name, the checks of its fields, and how they make up the record. -/
def record {α : Type} (name : String) (known : List (String × Decoder Unit))
    (build : Spot → List Field → Except Misfit α) : Decoder α := fun spot n =>
  match spot.root.follow n with
  | .mapping _ entries => do build spot (← takeFields spot known [] entries)
  | .scalar _ "" .plain => build spot []
  | other => spot.misfit (fault other ("struct " ++ name))

end LineHighlight.Yaml
