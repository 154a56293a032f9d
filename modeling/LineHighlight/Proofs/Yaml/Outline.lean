import LineHighlight.Proofs.Yaml.Records

/-! The outline of a document: its entries and the entries of the mappings among their values,
with every reference resolved. Of a scalar its tag, its text and its style are left, of any
other value nothing. -/

namespace LineHighlight.Yaml

/-- The entries of a mapping inside the mapping at the root. -/
abbrev Section := List (String × Option Scalar)

/-- A value in the mapping at the root. -/
inductive Part where
  | mapping (es : Section)
  | other
deriving DecidableEq, Repr

abbrev Outline := List (String × Part)

namespace Node

def leaves (root : Node) (es : List (String × Node)) : Section :=
  es.map fun e => (e.1, (root.follow e.2).scalar?)

def part (root n : Node) : Part :=
  match root.entries? n with
  | some es => .mapping (root.leaves es)
  | none => .other

def outline? (root : Node) : Option Outline :=
  (root.entries? root).map fun es => es.map fun e => (e.1, root.part e.2)

end Node

/-- The outline of a document with a mapping at its root. -/
def Document.outline? (d : Document) : Option Outline :=
  d.root.bind Node.outline?

/-- The entries under a key, none if there is no such key. -/
def under (o : Outline) (name : String) : Section :=
  match o.lookup name with
  | some (.mapping es) => es
  | _ => []

/-- What a field comes to: its decoded value, or what stands for it if it is absent. -/
def value? {α : Type} (es : Section) (name : String) (d : Decoder α) (fallback : α) : Option α :=
  match es.lookup name with
  | none => some fallback
  | some v => v.bind (Scalar.read d)

/-- The value of each known key that is there can be decoded. -/
def Decodes (known : List (String × Decoder Unit)) (es : Section) : Prop :=
  ∀ p ∈ known, ∀ v, es.lookup p.1 = some v → (v.bind (Scalar.read p.2)).isSome = true

/-- A decoder gives what the entries of a mapping say, if none of the names comes twice, and what
no entries say is the fallback. -/
structure Gives {S : Type} (d : Decoder S) (names : List String) (said : Section → S → Prop)
    (fallback : S) : Prop where
  eq_ok_iff : ∀ {root n : Node} {es : List (String × Node)}, root.entries? n = some es →
    Once names es → ∀ path s, d ⟨root, path⟩ n = .ok s ↔ said (root.leaves es) s
  nil_iff : ∀ s, said [] s ↔ s = fallback

theorem lookup_map {α β : Type} (f : α → β) (es : List (String × α)) (name : String) :
    (es.map fun e => (e.1, f e.2)).lookup name = (es.lookup name).map f := by
  induction es with
  | nil => rfl
  | cons e es ih =>
      obtain ⟨key, a⟩ := e
      rw [List.map_cons, List.lookup_cons, List.lookup_cons]
      cases name == key with
      | true => rfl
      | false => exact ih

theorem once_map {α β : Type} (f : α → β) {known : List String} {es : List (String × α)} :
    Once known (es.map fun e => (e.1, f e.2)) ↔ Once known es := by
  simp only [Once, List.map_map, Function.comp_def]

theorem lookup_leaves (root : Node) (es : List (String × Node)) (name : String) :
    (root.leaves es).lookup name = (es.lookup name).map fun n => (root.follow n).scalar? :=
  lookup_map (fun n => (root.follow n).scalar?) es name

section Values

variable {α : Type} {d : Decoder α} {name : String} {fallback a : α}

theorem value?_congr {es es' : Section} (h : es.lookup name = es'.lookup name) (d : Decoder α)
    (fallback : α) : value? es name d fallback = value? es' name d fallback := by
  rw [value?, value?, h]

/-- A field of scalars is decoded to its value. -/
theorem field_eq_ok_iff {root : Node} {path : List String} {fields : List Field}
    {known : List String} {es : List (String × Node)}
    (hfields : fields.map Field.entry = knownEntries known es) (hname : name ∈ known)
    (hd : OfScalar d) :
    field ⟨root, path⟩ fields name d fallback = .ok a ↔
      value? (root.leaves es) name d fallback = some a := by
  obtain ⟨called, hfield⟩ := field_eq ⟨root, path⟩ hfields hname d fallback
  rw [hfield, value?, lookup_leaves]
  cases es.lookup name with
  | none => simp
  | some n =>
      rw [← toOption_eq_some_iff, hd]
      rfl

/-- A value passes the check of its field wherever it is met. -/
theorem checks_of_value? {root : Node} {es : List (String × Node)} (hd : OfScalar d)
    (h : value? (root.leaves es) name d fallback = some a) {n : Node}
    (hn : es.lookup name = some n) (path : List String) : checks d ⟨root, path⟩ n = .ok () := by
  rw [value?, lookup_leaves, hn] at h
  have hvalue : d ⟨root, path⟩ n = .ok a := by
    rw [← toOption_eq_some_iff, hd]
    exact h
  rw [checks, hvalue]
  rfl

theorem exists_value?_iff {es : Section} :
    (∃ a, value? es name d fallback = some a) ↔
      ∀ v, es.lookup name = some v → (v.bind (Scalar.read (checks d))).isSome = true := by
  cases hlookup : es.lookup name with
  | none => simp [value?, hlookup]
  | some v =>
      cases v with
      | none => simp [value?, hlookup]
      | some s =>
          simp [value?, hlookup, Scalar.read, checks, toOption_map, Option.isSome_iff_exists]

end Values

end LineHighlight.Yaml
