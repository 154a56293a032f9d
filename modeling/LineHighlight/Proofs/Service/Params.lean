import LineHighlight.Proofs.Json.Records
import LineHighlight.Service.Tools

/-! The parameters of a request and the objects that they are decoded from.
Fields are read by their names, so keys that the parameters do not have make no difference. -/

namespace LineHighlight

namespace HighlightParams

/-- The fields of an object that hold the parameters. -/
structure HeldBy (p : HighlightParams) (fields : List (String × Json)) : Prop where
  text : Json.lookup "text" fields = some (.string p.text)
  language : match p.language with
    | none => Json.lookup "language" fields = none ∨ Json.lookup "language" fields = some .null
    | some s => Json.lookup "language" fields = some (.string s)
  flag : Json.lookup "ignore_illegals" fields = some (.boolean p.ignoreIllegals) ∨
    Json.lookup "ignore_illegals" fields = none ∧ p.ignoreIllegals = false

theorem HeldBy.language_eq {p : HighlightParams} {fields : List (String × Json)}
    (h : p.HeldBy fields) {s : String} (hname : Json.lookup "language" fields = some (.string s)) :
    p.language = some s := by
  have hlanguage := h.language
  cases hp : p.language with
  | none =>
      rw [hp, hname] at hlanguage
      simp at hlanguage
  | some s' =>
      rw [hp, hname] at hlanguage
      obtain rfl := Json.string.inj (Option.some.inj hlanguage)
      rfl

section Decoding

variable {p : HighlightParams} {fields : List (String × Json)}

theorem get_text_eq_ok_iff {s : String} :
    (Json.Source.named fields).get "text" 0 Json.text none = .ok s ↔
      Json.lookup "text" fields = some (.string s) := by
  simp [Json.Source.get_eq_ok_iff, Json.text_eq_ok_iff]

theorem get_language_eq_ok_iff {o : Option String} :
    (Json.Source.named fields).get "language" 1 (Json.optional Json.text) (some none) = .ok o ↔
      match o with
      | none => Json.lookup "language" fields = none ∨ Json.lookup "language" fields = some .null
      | some s => Json.lookup "language" fields = some (.string s) := by
  cases hfield : Json.lookup "language" fields with
  | none => cases o <;> simp [Json.Source.get, hfield]
  | some v =>
      cases v <;> cases o <;>
        simp [Json.Source.get, hfield, Json.optional, Json.text, Json.textAs, Except.map]

theorem get_flag_eq_ok_iff {b : Bool} :
    (Json.Source.named fields).get "ignore_illegals" 2 Json.bool (some false) = .ok b ↔
      Json.lookup "ignore_illegals" fields = some (.boolean b) ∨
        Json.lookup "ignore_illegals" fields = none ∧ b = false := by
  cases hfield : Json.lookup "ignore_illegals" fields with
  | none => simp [Json.Source.get, hfield, eq_comm]
  | some v => cases v <;> simp [Json.Source.get, hfield, Json.bool]

/-- The check of each field. -/
def checks : List (String × Json.Decoder Unit) :=
  [("text", Json.checks Json.text), ("language", Json.checks (Json.optional Json.text)),
    ("ignore_illegals", Json.checks Json.bool)]

theorem ofJson_object_eq_ok_iff :
    ofJson (.object fields) = .ok p ↔
      Json.checkFields checks fields = .ok () ∧ p.HeldBy fields := by
  constructor
  · intro h
    obtain ⟨_, hchecks, h⟩ := bind_eq_ok_iff.mp h
    obtain ⟨text, htext, h⟩ := bind_eq_ok_iff.mp h
    obtain ⟨language, hlanguage, h⟩ := bind_eq_ok_iff.mp h
    obtain ⟨flag, hflag, h⟩ := bind_eq_ok_iff.mp h
    obtain rfl := Except.ok.inj h
    exact ⟨hchecks, get_text_eq_ok_iff.mp htext, get_language_eq_ok_iff.mp hlanguage,
      get_flag_eq_ok_iff.mp hflag⟩
  · rintro ⟨hchecks, htext, hlanguage, hflag⟩
    refine bind_eq_ok_iff.mpr ⟨(), hchecks, ?_⟩
    refine bind_eq_ok_iff.mpr ⟨p.text, get_text_eq_ok_iff.mpr htext, ?_⟩
    refine bind_eq_ok_iff.mpr ⟨p.language, get_language_eq_ok_iff.mpr hlanguage, ?_⟩
    exact bind_eq_ok_iff.mpr ⟨p.ignoreIllegals, get_flag_eq_ok_iff.mpr hflag, rfl⟩

/-- An object without repeated keys holds parameters iff they are decoded from it. -/
theorem ofJson_object_eq_ok_iff_heldBy (hkeys : (fields.map Prod.fst).Nodup) :
    ofJson (.object fields) = .ok p ↔ p.HeldBy fields := by
  rw [ofJson_object_eq_ok_iff, and_iff_right_of_imp]
  rintro ⟨htext, hlanguage, hflag⟩
  apply Json.checkFields_of_lookup hkeys
  intro check hcheck v hv
  simp only [checks, List.mem_cons, List.not_mem_nil, or_false] at hcheck
  rcases hcheck with rfl | rfl | rfl
  · obtain rfl := Option.some.inj (hv.symm.trans htext)
    rfl
  · cases hlanguage' : p.language with
    | none =>
        rw [hlanguage'] at hlanguage
        rcases hlanguage with hnone | hnull
        · cases hv.symm.trans hnone
        · obtain rfl := Option.some.inj (hv.symm.trans hnull)
          rfl
    | some s =>
        rw [hlanguage'] at hlanguage
        obtain rfl := Option.some.inj (hv.symm.trans hlanguage)
        rfl
  · rcases hflag with hflag | ⟨hnone, -⟩
    · obtain rfl := Option.some.inj (hv.symm.trans hflag)
      rfl
    · cases hv.symm.trans hnone

end Decoding

end HighlightParams

end LineHighlight
