import LineHighlight.Proofs.Yaml.Scalars
import Mathlib.Data.List.Count

/-! Records that are decoded from mappings.
The entries that count are those under known keys, and if no such key comes twice, what a
record is made of is looked up by the keys, in whatever order the entries stand. -/

namespace LineHighlight.Yaml

/-! ## Entries -/

namespace Node

/-- The texts of the keys with their values, if every key is a scalar. -/
def named? (root : Node) : List (Node × Node) → Option (List (String × Node))
  | [] => some []
  | (key, value) :: rest => do
    let s ← (root.follow key).scalar?
    let others ← root.named? rest
    return (s.text, value) :: others

/-- The entries of a mapping with scalar keys. -/
def entries? (root n : Node) : Option (List (String × Node)) :=
  match root.follow n with
  | .mapping _ entries => root.named? entries
  | _ => none

theorem named?_cons {root key value : Node} {rest : List (Node × Node)}
    {es : List (String × Node)} :
    root.named? ((key, value) :: rest) = some es ↔
      ∃ s others, (root.follow key).scalar? = some s ∧ root.named? rest = some others ∧
        es = (s.text, value) :: others := by
  cases hkey : (root.follow key).scalar? with
  | none => simp [named?, hkey]
  | some s =>
      cases hrest : root.named? rest with
      | none => simp [named?, hkey, hrest]
      | some others => simp [named?, hkey, hrest, eq_comm]

end Node

/-! ## Known keys -/

section Known

variable {α : Type} {known : List String} {es es' : List (String × α)} {name : String}

/-- No known key comes twice. -/
def Once (known : List String) (es : List (String × α)) : Prop :=
  ∀ name ∈ known, (es.map Prod.fst).count name ≤ 1

/-- The entries under known keys. -/
def knownEntries (known : List String) (es : List (String × α)) : List (String × α) :=
  es.filter fun e => e.1 ∈ known

/-- Entries that differ in their order and in what stands under unknown keys. -/
def SameKnown (known : List String) (es es' : List (String × α)) : Prop :=
  (knownEntries known es).Perm (knownEntries known es')

theorem mem_of_lookup_eq_some {a : α} (h : es.lookup name = some a) : (name, a) ∈ es := by
  obtain ⟨before, after, rfl, -⟩ := List.lookup_eq_some_iff.mp h
  simp

theorem lookup_eq_some_iff_mem (honce : (es.map Prod.fst).count name ≤ 1) {a : α} :
    es.lookup name = some a ↔ (name, a) ∈ es := by
  refine ⟨mem_of_lookup_eq_some, fun hmem => ?_⟩
  obtain ⟨before, after, rfl⟩ := List.append_of_mem hmem
  refine List.lookup_eq_some_iff.mpr ⟨before, after, rfl, fun e he => ?_⟩
  simp only [List.map_append, List.map_cons, List.count_append, List.count_cons_self] at honce
  have hnone : (before.map Prod.fst).count name = 0 := by omega
  have hfresh := List.count_eq_zero.mp hnone
  rw [bne_iff_ne]
  rintro rfl
  exact hfresh (List.mem_map_of_mem he)

theorem mem_knownEntries (hname : name ∈ known) {a : α} :
    (name, a) ∈ knownEntries known es ↔ (name, a) ∈ es := by
  simp [knownEntries, hname]

theorem lookup_knownEntries (hname : name ∈ known) (es : List (String × α)) :
    (knownEntries known es).lookup name = es.lookup name := by
  induction es with
  | nil => rfl
  | cons e es ih =>
      obtain ⟨key, a⟩ := e
      rw [List.lookup_cons, ← ih]
      by_cases hkey : key ∈ known
      · rw [knownEntries, List.filter_cons_of_pos (by simpa using hkey), List.lookup_cons]
        rfl
      · have hne : (name == key) = false := by
          rw [beq_eq_false_iff_ne]
          rintro rfl
          exact hkey hname
        rw [knownEntries, List.filter_cons_of_neg (by simpa using hkey), hne]
        rfl

theorem count_knownEntries (hname : name ∈ known) (es : List (String × α)) :
    ((knownEntries known es).map Prod.fst).count name = (es.map Prod.fst).count name := by
  have hkeys : (knownEntries known es).map Prod.fst =
      (es.map Prod.fst).filter fun key => key ∈ known := by
    rw [knownEntries, List.filter_map]
    rfl
  rw [hkeys, List.count_filter (by simpa using hname)]

namespace SameKnown

theorem once (h : SameKnown known es es') (honce : Once known es) : Once known es' := by
  intro name hname
  rw [← count_knownEntries hname, ← (h.map Prod.fst).count_eq, count_knownEntries hname]
  exact honce name hname

/-- Under a known key the same is found. -/
theorem lookup_eq (h : SameKnown known es es') (honce : Once known es) (hname : name ∈ known) :
    es.lookup name = es'.lookup name := by
  have honce' := h.once honce
  apply Option.ext
  intro a
  rw [lookup_eq_some_iff_mem (honce name hname), lookup_eq_some_iff_mem (honce' name hname),
    ← mem_knownEntries hname, h.mem_iff, mem_knownEntries hname]

end SameKnown

end Known

/-! ## Taking fields -/

/-- The entry of a mapping that a field comes from. -/
def Field.entry (f : Field) : String × Node :=
  (f.name, f.value)

theorem keyName_eq_ok {root key : Node} (path : List String) {s : Scalar}
    (h : (root.follow key).scalar? = some s) :
    ∃ called, keyName ⟨root, path⟩ key = .ok (s.text, called) := by
  cases hkey : root.follow key with
  | scalar p text style =>
      rw [hkey] at h
      obtain rfl := Option.some.inj h
      cases key with
      | scalar p' text' style' => exact ⟨text, by simp [keyName, hkey]⟩
      | _ => exact ⟨"?", by simp [keyName, hkey]⟩
  | _ =>
      rw [hkey] at h
      cases h

theorem find?_isSome_iff {known : List (String × Decoder Unit)} {name : String} :
    (∃ p, known.find? (fun p => p.1 == name) = some p) ↔ name ∈ known.map Prod.fst := by
  rw [← Option.isSome_iff_exists, List.find?_isSome]
  simp

section Taking

variable {known : List (String × Decoder Unit)} {root : Node} {path : List String}
  {seen : List String} {entries : List (Node × Node)} {es : List (String × Node)}
  {fields : List Field}

theorem entries_takeFields (hnamed : root.named? entries = some es)
    (h : takeFields ⟨root, path⟩ known seen entries = .ok fields) :
    fields.map Field.entry = knownEntries (known.map Prod.fst) es := by
  induction entries generalizing seen es fields with
  | nil =>
      obtain rfl := Option.some.inj hnamed
      obtain rfl := Except.ok.inj h
      rfl
  | cons entry rest ih =>
      obtain ⟨key, value⟩ := entry
      obtain ⟨s, others, hkey, hrest, rfl⟩ := Node.named?_cons.mp hnamed
      obtain ⟨called, hname⟩ := keyName_eq_ok path hkey
      rw [takeFields, hname] at h
      simp only [ok_bind] at h
      cases hfind : known.find? (fun p => p.1 == s.text) with
      | none =>
          rw [hfind] at h
          have hunknown : s.text ∉ known.map Prod.fst := by
            rw [← find?_isSome_iff, hfind]
            nofun
          rw [ih hrest h, knownEntries, knownEntries,
            List.filter_cons_of_neg (by simpa using hunknown)]
      | some p =>
          rw [hfind] at h
          have hknown : s.text ∈ known.map Prod.fst := find?_isSome_iff.mp ⟨p, hfind⟩
          cases hseen : seen.contains s.text with
          | true =>
              rw [hseen] at h
              cases h
          | false =>
              simp only [hseen] at h
              obtain ⟨_, -, h⟩ := bind_eq_ok_iff.mp h
              obtain ⟨others', hothers, h⟩ := bind_eq_ok_iff.mp h
              obtain rfl := Except.ok.inj h
              rw [knownEntries, List.filter_cons_of_pos (by simpa using hknown), List.map_cons,
                ih hrest hothers]
              rfl

theorem exists_takeFields (path : List String) (hnamed : root.named? entries = some es)
    (honce : ∀ name ∈ known.map Prod.fst, (seen ++ es.map Prod.fst).count name ≤ 1)
    (hvalues : ∀ e ∈ es, ∀ p, known.find? (fun p => p.1 == e.1) = some p →
      ∀ path, p.2 ⟨root, path⟩ e.2 = .ok ()) :
    ∃ fields, takeFields ⟨root, path⟩ known seen entries = .ok fields := by
  induction entries generalizing seen es with
  | nil => exact ⟨[], rfl⟩
  | cons entry rest ih =>
      obtain ⟨key, value⟩ := entry
      obtain ⟨s, others, hkey, hrest, rfl⟩ := Node.named?_cons.mp hnamed
      obtain ⟨called, hname⟩ := keyName_eq_ok path hkey
      have hothers := fun e he => hvalues e (List.mem_cons_of_mem _ he)
      rw [takeFields, hname]
      simp only [ok_bind]
      cases hfind : known.find? (fun p => p.1 == s.text) with
      | none =>
          refine ih hrest (fun name hknown => ?_) hothers
          refine Nat.le_trans ?_ (honce name hknown)
          simp only [List.map_cons, List.count_append, List.count_cons]
          omega
      | some p =>
          have hknown : s.text ∈ known.map Prod.fst := find?_isSome_iff.mp ⟨p, hfind⟩
          have hfirst := honce s.text hknown
          simp only [List.map_cons, List.count_append, List.count_cons_self] at hfirst
          have hunseen : s.text ∉ seen := List.count_eq_zero.mp (by omega)
          have hvalue : p.2 (Spot.under ⟨root, path⟩ called) value = .ok () :=
            hvalues _ List.mem_cons_self p hfind _
          have hrestOnce : ∀ name ∈ known.map Prod.fst,
              (s.text :: seen ++ others.map Prod.fst).count name ≤ 1 := by
            intro name hname
            refine Nat.le_trans ?_ (honce name hname)
            simp only [List.cons_append, List.map_cons, List.count_append, List.count_cons]
            omega
          obtain ⟨fields, hfields⟩ := ih hrest hrestOnce hothers
          refine ⟨⟨s.text, called, value⟩ :: fields, ?_⟩
          simp [hunseen, hvalue, hfields]

end Taking

/-! ## Fields -/

theorem find?_entry (fields : List Field) (name : String) :
    (fields.find? (fun f => f.name == name)).map Field.value =
      (fields.map Field.entry).lookup name := by
  induction fields with
  | nil => rfl
  | cons f fields ih =>
      rw [List.find?_cons, List.map_cons, Field.entry, List.lookup_cons, BEq.comm]
      cases name == f.name with
      | true => rfl
      | false => exact ih

/-- A field is decoded from the entry under its name. -/
theorem field_eq {α : Type} (spot : Spot) {fields : List Field} {known : List String}
    {es : List (String × Node)} (hfields : fields.map Field.entry = knownEntries known es)
    {name : String} (hname : name ∈ known) (d : Decoder α) (fallback : α) :
    ∃ called, field spot fields name d fallback =
      match es.lookup name with
      | none => .ok fallback
      | some n => d (spot.under called) n := by
  have hlookup := find?_entry fields name
  rw [hfields, lookup_knownEntries hname] at hlookup
  rw [← hlookup, field]
  cases fields.find? (fun f => f.name == name) with
  | none => exact ⟨"", rfl⟩
  | some f => exact ⟨f.called, rfl⟩

/-! ## Records -/

section Records

variable {α : Type} {known : List (String × Decoder Unit)} {root n : Node} {path : List String}
  {es : List (String × Node)} {build : Spot → List Field → Except Misfit α} {name : String}

/-- A record says what it is built from, if that says that every check is passed. -/
theorem record_eq_ok_iff {a : α} {said : Prop} (hn : root.entries? n = some es)
    (honce : Once (known.map Prod.fst) es)
    (hbuild : ∀ fields, fields.map Field.entry = knownEntries (known.map Prod.fst) es →
      (build ⟨root, path⟩ fields = .ok a ↔ said))
    (hchecks : said → ∀ p ∈ known, ∀ v, es.lookup p.1 = some v →
      ∀ path, p.2 ⟨root, path⟩ v = .ok ()) :
    record name known build ⟨root, path⟩ n = .ok a ↔ said := by
  rw [Node.entries?] at hn
  cases hfound : root.follow n with
  | mapping p entries =>
      rw [hfound] at hn
      simp only [record, hfound]
      constructor
      · intro h
        obtain ⟨fields, hfields, h⟩ := bind_eq_ok_iff.mp h
        exact (hbuild fields (entries_takeFields hn hfields)).mp h
      · intro h
        have hentries : ∀ e ∈ es, ∀ p, known.find? (fun p => p.1 == e.1) = some p →
            ∀ path, p.2 ⟨root, path⟩ e.2 = .ok () := by
          rintro ⟨key, v⟩ he p hp
          have hknown := List.mem_of_find?_eq_some hp
          have hkey := List.find?_some hp
          obtain rfl : p.1 = key := beq_iff_eq.mp hkey
          have honce' := honce p.1 (List.mem_map_of_mem hknown)
          exact hchecks h p hknown v ((lookup_eq_some_iff_mem honce').mpr he)
        have hfresh : ∀ name ∈ known.map Prod.fst, ([] ++ es.map Prod.fst).count name ≤ 1 := honce
        obtain ⟨fields, hfields⟩ := exists_takeFields path hn hfresh hentries
        exact bind_eq_ok_iff.mpr
          ⟨fields, hfields, (hbuild fields (entries_takeFields hn hfields)).mpr h⟩
  | _ =>
      rw [hfound] at hn
      cases hn

end Records

end LineHighlight.Yaml
