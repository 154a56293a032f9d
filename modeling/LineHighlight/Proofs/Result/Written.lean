import LineHighlight.Proofs.Json.Documents
import LineHighlight.Proofs.Result.Decoding

/-! Results as they are written.
A result comes back from its text, from an object with its fields in any order and others between
them, and from the list of its fields. -/

namespace LineHighlight.HighlightResult

open Json (IsExact lookup checkFields)
open EngineResult (relevance32 relevance32_nat relevanceLimit)

variable {r : HighlightResult}

/-- The fields that a result is written with. -/
def written (r : HighlightResult) : List (String × Json) :=
  [("value", .string r.value), ("illegal", .boolean r.illegal), ("language", .string r.language),
    ("relevance", .nat r.relevance)]

theorem toJson_eq (r : HighlightResult) : r.toJson = .object r.written := rfl

/-! ## Text -/

theorem isExact_toJson (h : r.relevance < relevanceLimit) (depth : Nat) :
    IsExact (depth + 1) r.toJson := by
  have hrelevance : r.relevance < 2 ^ 32 := h
  rw [toJson_eq]
  refine .object (by simp [written]) ?_
  simp only [written, List.forall_mem_cons, List.not_mem_nil, false_imp_iff, implies_true,
    and_true]
  exact ⟨.string _, .boolean _, .string _, .integer (by omega) (by omega)⟩

theorem read_pretty_toJson (h : r.relevance < relevanceLimit) :
    Json.read r.toJson.pretty = .ok r.toJson :=
  Json.read_pretty (isExact_toJson h 126)

/-! ## Objects and lists -/

/-- An object with the fields of a result, and others of other names. -/
structure Among (r : HighlightResult) (fields : List (String × Json)) : Prop where
  mem : ∀ f ∈ r.written, f ∈ fields
  only : ∀ f ∈ fields, f ∈ r.written ∨ f.1 ∉ r.written.map Prod.fst

theorem among_of_perm {fields extra : List (String × Json)}
    (hperm : fields.Perm (r.written ++ extra))
    (hextra : ∀ f ∈ extra, f.1 ∉ r.written.map Prod.fst) : r.Among fields where
  mem _ hf := hperm.mem_iff.mpr (List.mem_append_left extra hf)
  only f hf := (List.mem_append.mp (hperm.mem_iff.mp hf)).imp_right (hextra f)

theorem among_written : r.Among r.written where
  mem _ hf := hf
  only _ hf := .inl hf

theorem nodup_written (r : HighlightResult) : (r.written.map Prod.fst).Nodup := by
  simp [written]

/-- The check of each field. -/
def checks : List (String × Json.Decoder Unit) :=
  [("value", Json.checks Json.text), ("illegal", Json.checks Json.bool),
    ("language", Json.checks Json.text), ("relevance", Json.checks relevance32)]

theorem checkFields_written (h : r.relevance < relevanceLimit) :
    checkFields checks r.written = .ok () := by
  apply Json.checkFields_of_lookup r.nodup_written
  have hvalue : lookup "value" r.written = some (.string r.value) := rfl
  have hillegal : lookup "illegal" r.written = some (.boolean r.illegal) := rfl
  have hlanguage : lookup "language" r.written = some (.string r.language) := rfl
  have hrelevance : lookup "relevance" r.written = some (.nat r.relevance) := rfl
  simp only [checks, List.forall_mem_cons, hvalue, hillegal, hlanguage, hrelevance,
    Option.some.injEq, forall_eq', Json.checks_eq_ok_iff]
  exact ⟨⟨_, rfl⟩, ⟨_, rfl⟩, ⟨_, rfl⟩, ⟨_, relevance32_nat h⟩, by simp⟩

namespace Among

variable {fields : List (String × Json)}

theorem lookup_eq (h : r.Among fields) {name : String} {v : Json} (hf : (name, v) ∈ r.written) :
    lookup name fields = some v := by
  refine Json.lookup_eq_some_of_unique (h.mem _ hf) fun w hw => ?_
  rcases h.only _ hw with hwritten | hother
  · exact congrArg Prod.snd (List.inj_on_of_nodup_map r.nodup_written hwritten hf rfl)
  · exact absurd (List.mem_map_of_mem (f := Prod.fst) hf) hother

/-- A field that the record knows holds what the result was written with. -/
theorem checkFields_eq (h : r.Among fields) (hr : r.relevance < relevanceLimit) :
    checkFields checks fields = .ok () := by
  rw [Json.checkFields_eq_ok_iff]
  intro field hfield p hp
  have hname : p.1 = field.1 := by simpa using List.find?_some hp
  have hknown : field.1 ∈ r.written.map Prod.fst :=
    hname ▸ List.mem_map_of_mem (f := Prod.fst) (List.mem_of_find?_eq_some hp)
  have hwritten := (h.only field hfield).resolve_right (not_not_intro hknown)
  exact Json.checkFields_eq_ok_iff.mp (checkFields_written hr) field hwritten p hp

theorem ofJson_eq (h : r.Among fields) (hr : r.relevance < relevanceLimit) :
    ofJson (.object fields) = .ok r := by
  have hvalue : lookup "value" fields = some (.string r.value) := h.lookup_eq (by simp [written])
  have hillegal : lookup "illegal" fields = some (.boolean r.illegal) :=
    h.lookup_eq (by simp [written])
  have hlanguage : lookup "language" fields = some (.string r.language) :=
    h.lookup_eq (by simp [written])
  have hrelevance : lookup "relevance" fields = some (.nat r.relevance) :=
    h.lookup_eq (by simp [written])
  refine bind_eq_ok_iff.mpr ⟨(), h.checkFields_eq hr, ?_⟩
  refine bind_eq_ok_iff.mpr ⟨r.value, Json.Source.get_eq_ok_iff.mpr ⟨_, hvalue, rfl⟩, ?_⟩
  refine bind_eq_ok_iff.mpr ⟨r.illegal, Json.Source.get_eq_ok_iff.mpr ⟨_, hillegal, rfl⟩, ?_⟩
  refine bind_eq_ok_iff.mpr ⟨r.language, Json.Source.get_eq_ok_iff.mpr ⟨_, hlanguage, rfl⟩, ?_⟩
  refine bind_eq_ok_iff.mpr ⟨r.relevance, ?_, rfl⟩
  exact Json.Source.get_eq_ok_iff.mpr ⟨_, hrelevance, relevance32_nat hr⟩

end Among

theorem ofJson_toJson (h : r.relevance < relevanceLimit) : ofJson r.toJson = .ok r :=
  among_written.ofJson_eq h

/-- A result is decoded from the list of its fields, too. -/
theorem ofJson_array (h : r.relevance < relevanceLimit) :
    ofJson (.array (r.written.map Prod.snd)) = .ok r := by
  refine bind_eq_ok_iff.mpr ⟨r, ?_, rfl⟩
  refine bind_eq_ok_iff.mpr ⟨r.value, rfl, ?_⟩
  refine bind_eq_ok_iff.mpr ⟨r.illegal, rfl, ?_⟩
  refine bind_eq_ok_iff.mpr ⟨r.language, rfl, ?_⟩
  exact bind_eq_ok_iff.mpr ⟨r.relevance, relevance32_nat h, rfl⟩

end LineHighlight.HighlightResult
