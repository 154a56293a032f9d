import LineHighlight.Proofs.Decode.Steps
import LineHighlight.Yaml.Typed

/-! Decoders that look at a scalar and at nothing else.
What they make of a node is up to the scalar that the node is or stands for: neither its
anchor, nor the tree around it, nor the place where it is decoded makes a difference. -/

namespace LineHighlight.Yaml

/-- A scalar without its anchor. -/
structure Scalar where
  tag : Option Tag.Name := none
  text : String
  style : Style
deriving DecidableEq, Repr

namespace Scalar

/-- The scalar as a tree of its own. -/
def node (s : Scalar) : Node :=
  .scalar { tag := s.tag } s.text s.style

/-- What a decoder makes of a scalar. -/
def read {α : Type} (d : Decoder α) (s : Scalar) : Option α :=
  (d ⟨s.node, []⟩ s.node).toOption

end Scalar

namespace Node

/-- The scalar that a node is, if it is one. -/
def scalar? : Node → Option Scalar
  | .scalar p text style => some ⟨p.tag, text, style⟩
  | _ => none

@[simp] theorem follow_scalar (root : Node) (p : Properties) (text : String) (style : Style) :
    root.follow (.scalar p text style) = .scalar p text style := rfl

@[simp] theorem scalar?_scalar (p : Properties) (text : String) (style : Style) :
    (scalar p text style).scalar? = some ⟨p.tag, text, style⟩ := rfl

@[simp] theorem scalar?_sequence (p : Properties) (items : List Node) :
    (sequence p items).scalar? = none := rfl

@[simp] theorem scalar?_mapping (p : Properties) (entries : List (Node × Node)) :
    (mapping p entries).scalar? = none := rfl

/-- No anchor leads to another reference. -/
theorem follow_ne_reference (root n : Node) (anchor : Nat) : root.follow n ≠ .reference anchor := by
  cases n with
  | scalar p text style => nofun
  | sequence p items => nofun
  | mapping p entries => nofun
  | reference number =>
      rw [follow]
      cases htarget : root.target? number with
      | none => nofun
      | some target =>
          rw [Option.getD_some]
          rintro rfl
          have hmem := List.mem_of_getLast? htarget
          have hanchor := (List.mem_filter.mp hmem).2
          simp [properties] at hanchor

end Node

@[simp] theorem Spot.toOption_misfit {α : Type} (spot : Spot) (fault : DecodeFault) :
    (spot.misfit fault : Except Misfit α).toOption = none := rfl

@[simp] theorem toOption_ok {ε α : Type} (a : α) : (.ok a : Except ε α).toOption = some a := rfl

theorem toOption_map {ε α β : Type} (f : α → β) (x : Except ε α) :
    (x.map f).toOption = x.toOption.map f := by
  cases x <;> rfl

/-- A decoder that looks at scalars only. -/
def OfScalar {α : Type} (d : Decoder α) : Prop :=
  ∀ spot n, (d spot n).toOption = (spot.root.follow n).scalar?.bind (Scalar.read d)

namespace OfScalar

theorem textAs (expected : String) : OfScalar (textAs expected) := by
  intro spot n
  cases hfound : spot.root.follow n with
  | scalar p text style => simp [Yaml.textAs, hfound, Scalar.read, Scalar.node]
  | sequence p items => simp [Yaml.textAs, hfound]
  | mapping p entries => simp [Yaml.textAs, hfound]
  | reference anchor => exact absurd hfound (Node.follow_ne_reference _ n anchor)

theorem unsigned (expected : String) (limit : Nat) : OfScalar (unsigned expected limit) := by
  intro spot n
  cases hfound : spot.root.follow n with
  | scalar p text style =>
      have hnumber : numberBelow? limit { tag := p.tag } text style =
          numberBelow? limit p text style := rfl
      simp only [Yaml.unsigned, hfound, Node.scalar?_scalar, Option.bind_some, Scalar.read,
        Scalar.node, Node.follow_scalar, hnumber]
      cases numberBelow? limit p text style with
      | none => rfl
      | some v => rfl
  | sequence p items => simp [Yaml.unsigned, hfound]
  | mapping p entries => simp [Yaml.unsigned, hfound]
  | reference anchor => exact absurd hfound (Node.follow_ne_reference _ n anchor)

theorem optional {α : Type} {d : Decoder α} (h : OfScalar d) : OfScalar (optional d) := by
  intro spot n
  have hvalue := h spot n
  cases hfound : spot.root.follow n with
  | scalar p text style =>
      rw [hfound, Node.scalar?_scalar, Option.bind_some, Scalar.read, Scalar.node] at hvalue
      cases style with
      | plain =>
          simp only [Yaml.optional, hfound, Node.scalar?_scalar, Option.bind_some, Scalar.read,
            Scalar.node, Node.follow_scalar]
          cases htag : p.tag with
          | none =>
              rw [htag] at hvalue
              simp only
              split
              · rfl
              · rw [toOption_map, toOption_map, hvalue]
          | some tag =>
              rw [htag] at hvalue
              simp only
              split
              · split
                · rfl
                · rfl
              · rw [toOption_map, toOption_map, hvalue]
      | _ =>
          simp only [Yaml.optional, hfound, Node.scalar?_scalar, Option.bind_some, Scalar.read,
            Scalar.node, Node.follow_scalar, toOption_map, hvalue]
  | sequence p items =>
      rw [hfound] at hvalue
      simp [Yaml.optional, hfound, toOption_map, hvalue]
  | mapping p entries =>
      rw [hfound] at hvalue
      simp [Yaml.optional, hfound, toOption_map, hvalue]
  | reference anchor => exact absurd hfound (Node.follow_ne_reference _ n anchor)

theorem enum {α : Type} (known : List (String × α)) : OfScalar (enum known) := by
  intro spot n
  cases hfound : spot.root.follow n with
  | scalar p text style =>
      have htagged : taggedVariant? (.scalar { tag := p.tag } text style) =
          taggedVariant? (.scalar p text style) := rfl
      simp only [Yaml.enum, hfound, Node.scalar?_scalar, Option.bind_some, Scalar.read,
        Scalar.node, Node.follow_scalar, htagged]
      cases taggedVariant? (.scalar p text style) with
      | none =>
          simp only
          cases variant known text with
          | error f => rfl
          | ok v => rfl
      | some name =>
          simp only [nothing]
          cases variant known name with
          | error f => rfl
          | ok v =>
              simp only
              split
              · rfl
              · rfl
  | sequence p items =>
      simp only [Yaml.enum, hfound, Node.scalar?_sequence, Option.bind_none]
      cases taggedVariant? (.sequence p items) with
      | none => rfl
      | some name =>
          simp only
          cases variant known name with
          | error f => rfl
          | ok v => rfl
  | mapping p entries =>
      simp only [Yaml.enum, hfound, Node.scalar?_mapping, Option.bind_none]
      cases taggedVariant? (.mapping p entries) with
      | none => rfl
      | some name =>
          simp only
          cases variant known name with
          | error f => rfl
          | ok v => rfl
  | reference anchor => exact absurd hfound (Node.follow_ne_reference _ n anchor)

end OfScalar

end LineHighlight.Yaml
