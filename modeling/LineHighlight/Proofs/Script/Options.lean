import LineHighlight.Engine.Interpreter
import LineHighlight.Proofs.Json.Documents
import LineHighlight.Proofs.Text.Utf16

/-! The options of a call and the name in them.
A caller picks the name of the grammar, and the options go to the function as JSON text. The name
is read back from that text as it was given, so it cannot pass for anything else. -/

namespace LineHighlight

open Json (IsExact)

/-! ## The text of the options -/

theorem isExact_grammarOptions (name : String) (ignoreIllegals : Bool) (depth : Nat) :
    IsExact (depth + 1) (grammarOptions name ignoreIllegals) := by
  cases ignoreIllegals with
  | false =>
      refine .object (by simp) ?_
      rintro f (_ | ⟨_, ⟨⟩⟩)
      exact .string name
  | true =>
      refine .object (by simp) ?_
      rintro f (_ | ⟨_, _ | ⟨_, ⟨⟩⟩⟩)
      · exact .string name
      · exact .boolean true

theorem compactChars_grammarOptions (name : String) (ignoreIllegals : Bool) :
    (grammarOptions name ignoreIllegals).compactChars =
      '{' :: (Json.quote "language" ++ ':' :: Json.quote name ++
        (if ignoreIllegals then ',' :: (Json.quote "ignoreIllegals" ++ ":true".toList) else []) ++
        ['}']) := by
  cases ignoreIllegals <;> simp [grammarOptions, Json.compactChars, Json.compactFields]

/-- The text may cross a boundary at which a zero ends a text. -/
theorem le_toNat_of_mem_options (name : String) (ignoreIllegals : Bool) :
    ∀ c ∈ (grammarOptions name ignoreIllegals).compact.toList, 0x20 ≤ c.toNat := by
  have hquote : ∀ s, ∀ c ∈ Json.quote s, 0x20 ≤ c.toNat := fun _ _ => Json.le_toNat_of_mem_quote
  have hfield : ∀ c ∈ Json.quote "language" ++ ':' :: Json.quote name, 0x20 ≤ c.toNat :=
    List.forall_mem_append.mpr ⟨hquote _, List.forall_mem_cons.mpr ⟨by decide, hquote name⟩⟩
  have hflag : ∀ c ∈ if ignoreIllegals then
      ',' :: (Json.quote "ignoreIllegals" ++ ":true".toList) else [], 0x20 ≤ c.toNat := by
    cases ignoreIllegals with
    | false => exact List.forall_mem_nil _
    | true =>
        have hvalue : ∀ c ∈ ":true".toList, 0x20 ≤ c.toNat := by simp
        exact List.forall_mem_cons.mpr ⟨by decide, List.forall_mem_append.mpr ⟨hquote _, hvalue⟩⟩
  rw [Json.compact, String.toList_ofList, compactChars_grammarOptions, List.forall_mem_cons,
    List.forall_mem_append, List.forall_mem_append, List.forall_mem_singleton]
  exact ⟨by decide, ⟨hfield, hflag⟩, by decide⟩

namespace EngineCall

open Script (Value)

/-! ## What a function is called with -/

/-- The fields of the options that a function is called with. -/
def optionFields (name : String) (ignoreIllegals : Bool) : List (String × Value) :=
  ("language", .ofText name) :: if ignoreIllegals then [("ignoreIllegals", .boolean true)] else []

theorem parsed_grammarOptions (name : String) (ignoreIllegals : Bool) :
    Script.parsed (grammarOptions name ignoreIllegals).compact =
      .ok (.record .undefined (optionFields name ignoreIllegals)) := by
  have hread := Json.readWith_compact (isExact_grammarOptions name ignoreIllegals 126)
    Json.oneRounding
  rw [Script.parsed]
  simp only [hread]
  cases ignoreIllegals <;> rfl

/-- The options of a call with a grammar: their text, and the fields that the function sees. -/
structure OptionsSpec (name : String) (ignoreIllegals : Bool) (text : String)
    (fields : List (String × Value)) : Prop where
  text_eq : (grammar name ignoreIllegals).optionsText = some text
  /-- Whatever becomes of numerals, the text is read as the name and the flag and nothing else. -/
  read : ∀ scale, Json.readWith scale text = .ok (.object (("language", .string name) ::
    if ignoreIllegals then [("ignoreIllegals", .boolean true)] else []))
  no_control : ∀ c ∈ text.toList, 0x20 ≤ c.toNat
  seen : Script.parsed text = .ok (.record .undefined fields)
  keys : fields.map Prod.fst =
    if ignoreIllegals then ["language", "ignoreIllegals"] else ["language"]
  language : ∃ units, Value.lookup "language" fields = some (.string units) ∧
    Text.ofUnits? units = some name
  flag : ∀ v, Value.lookup "ignoreIllegals" fields = some v ↔
    v = .boolean true ∧ ignoreIllegals = true
  /-- Whatever runs scripts parses this very text for the call, and the function gets what comes of
  it or is not called at all. -/
  handed : ∀ {S V : Type} (lib : ScriptLibrary S V) (entryPoint line : String),
    lib.callFunction entryPoint (grammar name ignoreIllegals) line = do
      let target ← lib.target entryPoint
      let method ← lib.field target "highlight"
      let function ← Execution.ofExcept (lib.function method)
      let options ← lib.parse text
      lib.call function target line (some options)
  /-- No other call has the same text. -/
  injective : ∀ call, optionsText call = some text → call = grammar name ignoreIllegals

theorem compact_grammarOptions_inj {name name' : String} {flag flag' : Bool}
    (h : (grammarOptions name flag).compact = (grammarOptions name' flag').compact) :
    name = name' ∧ flag = flag' := by
  have hread := Json.readWith_compact (isExact_grammarOptions name flag 126) Json.oneRounding
  have hread' := Json.readWith_compact (isExact_grammarOptions name' flag' 126) Json.oneRounding
  rw [h, hread'] at hread
  have hsame : grammarOptions name' flag' = grammarOptions name flag := Except.ok.inj hread
  cases flag <;> cases flag' <;> simp_all [grammarOptions]

/-- Whatever the name is, it comes back as the language and leaves the flag alone. -/
theorem options_spec (name : String) (ignoreIllegals : Bool) :
    ∃ text fields, OptionsSpec name ignoreIllegals text fields := by
  refine ⟨_, optionFields name ignoreIllegals, rfl, ?_, ?_,
    parsed_grammarOptions name ignoreIllegals, ?_,
    ⟨Text.units name, rfl, Text.ofUnits?_units name⟩, ?_, fun lib entryPoint line => rfl, ?_⟩
  · exact fun scale => Json.readWith_compact (isExact_grammarOptions name ignoreIllegals 126) scale
  · exact le_toNat_of_mem_options name ignoreIllegals
  · cases ignoreIllegals <;> rfl
  · intro v
    cases ignoreIllegals <;> simp [optionFields, Value.lookup, eq_comm]
  · intro call hcall
    cases call with
    | auto => cases hcall
    | grammar name' flag' =>
        obtain ⟨rfl, rfl⟩ := compact_grammarOptions_inj (Option.some.inj hcall)
        rfl

/-- A name that is made to look like the end of itself and one more option. -/
example :
    (grammar "c\",\"ignoreIllegals\":true\x7d" false).optionsText =
      some "\x7b\"language\":\"c\\\",\\\"ignoreIllegals\\\":true\x7d\"\x7d" := by
  decide +kernel

end EngineCall

end LineHighlight
