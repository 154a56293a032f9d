import LineHighlight.Proofs.Engine.Interruptions
import LineHighlight.Proofs.Json.Objects
import LineHighlight.Proofs.Result.Decoding
import LineHighlight.Proofs.Script.Coercion

/-! Handing a result over.
A script's result reaches the decoder as JSON text of its four fields. The text decodes to what
the result itself decodes to, up to the reading of its relevance. The fields are converted as the
language has it; the interpreter of payloads hands over the same text. -/

namespace LineHighlight

namespace Json

/-- A value that is written alike everywhere and holds no other values. Integers are exact as
doubles. -/
def IsAtom : Json → Prop
  | .null | .boolean _ | .string _ => True
  | .number (.integer n) => n.natAbs < 2 ^ 53
  | _ => False

theorem readsAs_atom (scale : Scaling) (depth : Nat) {v : Json} (h : v.IsAtom) :
    ReadsAs (readValue scale depth) v.compactChars v := by
  cases v with
  | null => exact readsAs_null scale depth
  | boolean b => exact readsAs_boolean scale depth b
  | string s => exact readsAs_quote scale depth s
  | number n =>
      cases n with
      | integer n =>
          have hn : n.natAbs < 2 ^ 53 := h
          exact readsAs_int scale depth (by omega) (by omega)
      | double x => exact absurd h not_false
  | array items => exact absurd h not_false
  | object fields => exact absurd h not_false

end Json

namespace Script

open Json (WrittenField)

/-! ## The text of an object of atoms -/

theorem quoteUnits_units (s : String) : quoteUnits (Text.units s) = Json.quote s := by
  rw [quoteUnits, Json.quote, Text.scalars_units, List.flatMap_map]
  rfl

theorem numberText_int {n : Int} (h : n.natAbs < 2 ^ 53) :
    numberFormat.text (Binary64.ofInt n) = toString n :=
  NumberFormat.text_ofInt (by decide) (by decide) rfl h

theorem isFinite_ofInt {n : Int} (h : n.natAbs < 2 ^ 53) : (Binary64.ofInt n).isFinite = true := by
  rcases eq_or_ne n 0 with rfl | hn
  · rfl
  · rw [Binary64.ofInt_of_ne_zero hn h]
    rfl

/-- A script writes an atom as any JSON text has it. -/
theorem Value.jsonAt_atom {v : Json} (h : v.IsAtom) (fuel : Nat) :
    (ofPlain v).jsonAt (fuel + 1) = .ok (some v.compactChars) := by
  cases v with
  | null => rfl
  | boolean b => cases b <;> rfl
  | string s =>
      rw [Json.compactChars, ← quoteUnits_units]
      rfl
  | number n =>
      cases n with
      | integer n =>
          have hn : n.natAbs < 2 ^ 53 := h
          have hview : (ofDouble (Binary64.ofInt n)).jsonView = .ok (ofDouble (Binary64.ofInt n)) :=
            rfl
          rw [Json.compactChars, JsonNumber.text, ← numberText_int hn, ofPlain,
            JsonNumber.toBinary64, jsonAt, hview]
          simp [bind, Except.bind, ofDouble, untied, isFinite_ofInt hn]
      | double x => exact absurd h not_false
  | array items => exact absurd h not_false
  | object fields => exact absurd h not_false

theorem foldl_of_fixed {α β : Type} {step : β → α → β} {start : β} {xs : List α}
    (h : ∀ x ∈ xs, step start x = start) : xs.foldl step start = start := by
  induction xs with
  | nil => rfl
  | cons x xs ih =>
      rw [List.foldl_cons, h x List.mem_cons_self]
      exact ih fun y hy => h y (List.mem_cons_of_mem x hy)

theorem inKeyOrder_of_names {α : Type} {fields : List (String × α)}
    (h : ∀ f ∈ fields, indexOfKey? f.1 = none) : inKeyOrder fields = fields := by
  have hnamed : fields.filter (fun f => (indexOfKey? f.1).isNone) = fields :=
    List.filter_eq_self.mpr fun f hf => by rw [h f hf]; rfl
  rw [inKeyOrder, hnamed, foldl_of_fixed]
  · rfl
  · intro f hf
    rw [h f hf]

/-- Fields with their values, some of which are missing. -/
abbrev OptionalFields := List (String × Option Json)

namespace OptionalFields

/-- The fields as a script holds them. -/
def held (fs : OptionalFields) : List (String × Value) :=
  fs.map fun f => (f.1, Value.ofPlain? f.2)

/-- The fields as they are written. -/
def written (fs : OptionalFields) : List WrittenField :=
  fs.filterMap fun f => f.2.map fun v => ⟨f.1, v.compactChars, v⟩

def IsAtomic (fs : OptionalFields) : Prop :=
  ∀ f ∈ fs, ∀ v, f.2 = some v → v.IsAtom

theorem jsonFieldsAt_cons {v : Value} (hv : v.settle = .ok v) {fuel : Nat}
    {text : Option (List Char)} (htext : v.jsonAt fuel = .ok text)
    {rest : List (String × Value)} {texts : List (List Char)}
    (hrest : Value.jsonFieldsAt fuel rest = .ok texts) (name : String) :
    Value.jsonFieldsAt (fuel + 1) ((name, v) :: rest) =
      .ok ((text.map fun s => Json.quote name ++ ':' :: s).toList ++ texts) := by
  rw [Value.jsonFieldsAt]
  · cases text <;> simp [bind, Except.bind, htext, hrest]
  · rintro message rfl
    cases hv

theorem jsonFieldsAt_held {fs : OptionalFields} (h : fs.IsAtomic) :
    ∀ fuel, fs.length < fuel →
      Value.jsonFieldsAt fuel fs.held = .ok (fs.written.map WrittenField.chars) := by
  induction fs with
  | nil =>
      intro fuel hfuel
      obtain ⟨fuel, rfl⟩ := Nat.exists_eq_succ_of_ne_zero (Nat.ne_of_gt hfuel)
      rfl
  | cons f fs ih =>
      intro fuel hfuel
      obtain ⟨fuel, rfl⟩ := Nat.exists_eq_succ_of_ne_zero (Nat.ne_of_gt (Nat.zero_lt_of_lt hfuel))
      rw [List.length_cons] at hfuel
      have hrest := ih (fun g hg => h g (List.mem_cons_of_mem f hg)) fuel (by omega)
      obtain ⟨more, rfl⟩ : ∃ more, fuel = more + 1 := ⟨fuel - 1, by omega⟩
      obtain ⟨name, v⟩ := f
      have hsettle := Value.settle_ofPlain? v
      cases v with
      | none =>
          have htext : (Value.ofPlain? none).jsonAt (more + 1) = .ok none := rfl
          exact jsonFieldsAt_cons hsettle htext hrest name
      | some v =>
          have htext := Value.jsonAt_atom (h _ List.mem_cons_self v rfl) more
          exact jsonFieldsAt_cons hsettle htext hrest name

theorem lookup_eq_none {name : String} {fields : List (String × Value)}
    (h : ∀ f ∈ fields, f.1 ≠ name) : Value.lookup name fields = none := by
  induction fields with
  | nil => rfl
  | cons f fields ih =>
      obtain ⟨k, v⟩ := f
      rw [Value.lookup, if_neg (h _ List.mem_cons_self)]
      exact ih fun g hg => h g (List.mem_cons_of_mem _ hg)

theorem length_le_sizeFields (fields : List (String × Value)) :
    fields.length ≤ Value.sizeFields fields := by
  induction fields with
  | nil => exact Nat.le_refl 0
  | cons f fields ih =>
      obtain ⟨k, v⟩ := f
      rw [Value.sizeFields, List.length_cons]
      omega

/-- Names under which fields stay in place and are not called. -/
def IsPlainNamed (fs : OptionalFields) : Prop :=
  ∀ f ∈ fs, indexOfKey? f.1 = none ∧ f.1 ≠ "toJSON"

theorem IsPlainNamed.held {fs : OptionalFields} (h : fs.IsPlainNamed) :
    ∀ f ∈ fs.held, indexOfKey? f.1 = none ∧ f.1 ≠ "toJSON" := by
  intro f hf
  obtain ⟨g, hg, rfl⟩ := List.mem_map.mp hf
  exact h g hg

theorem jsonView_record {fields : List (String × Value)} (hnames : ∀ f ∈ fields, f.1 ≠ "toJSON") :
    (Value.record .undefined fields).jsonView = .ok (.record .undefined fields) := by
  have hmethod : Value.lookup "toJSON" fields = none := lookup_eq_none hnames
  simp [Value.jsonView, Value.isObject, Value.get, Value.find, hmethod, bind, Except.bind,
    Value.settle, Value.callResult?]

theorem exists_fuelFor_record (fields : List (String × Value)) :
    ∃ fuel, (Value.record .undefined fields).fuelFor = fuel + 1 ∧ fields.length < fuel := by
  have hsize := length_le_sizeFields fields
  refine ⟨8 * (Value.record .undefined fields).size + 15, rfl, ?_⟩
  rw [Value.size]
  omega

/-- An object is written as its fields are, in their order. -/
theorem toJson_record {fields : List (String × Value)} {texts : List (List Char)}
    (hnames : ∀ f ∈ fields, indexOfKey? f.1 = none ∧ f.1 ≠ "toJSON")
    (hfields : ∀ fuel, fields.length < fuel → Value.jsonFieldsAt fuel fields = .ok texts) :
    (Value.record .undefined fields).toJson =
      .ok (some (String.ofList ('{' :: (texts.intersperse [',']).flatten ++ ['}']))) := by
  have horder : inKeyOrder fields = fields := inKeyOrder_of_names fun f hf => (hnames f hf).1
  obtain ⟨fuel, hfuel, hlt⟩ := exists_fuelFor_record fields
  rw [Value.toJson, hfuel, Value.jsonAt, jsonView_record fun f hf => (hnames f hf).2]
  simp only [bind, Except.bind, Value.untied, horder, hfields fuel hlt]
  rfl

theorem toJson_held {fs : OptionalFields} (hatomic : fs.IsAtomic) (hnames : fs.IsPlainNamed) :
    (Value.record .undefined fs.held).toJson = .ok (some (String.ofList
      ('{' :: ((fs.written.map WrittenField.chars).intersperse [',']).flatten ++ ['}']))) := by
  have hlength : fs.held.length = fs.length := List.length_map _
  exact toJson_record hnames.held fun fuel hfuel =>
    jsonFieldsAt_held hatomic fuel (hlength ▸ hfuel)

/-- The text of the fields reads as those that are there. -/
theorem read_held {fs : OptionalFields} (hatomic : fs.IsAtomic) (hnames : fs.IsPlainNamed) :
    ∃ text, (Value.record .undefined fs.held).toJson = .ok (some text) ∧
      Json.read text = .ok (.object (WrittenField.collect [] fs.written)) := by
  refine ⟨_, toJson_held hatomic hnames, Json.readWith_of_readsAs ?_⟩
  apply WrittenField.readsAs_object
  intro f hf
  obtain ⟨g, hg, hwritten⟩ := List.mem_filterMap.mp hf
  obtain ⟨v, hv, rfl⟩ := Option.map_eq_some_iff.mp hwritten
  exact Json.readsAs_atom _ _ (hatomic g hg v hv)

end OptionalFields

/-! ## The four fields of a result -/

/-- The names of the fields that are handed over. -/
def contractNames : List String := ["value", "language", "illegal", "relevance"]

theorem contractNames_plain :
    ∀ name ∈ contractNames, indexOfKey? name = none ∧ name ≠ "toJSON" := by
  decide

theorem contractNames_not_self : ∀ name ∈ contractNames, name ≠ "_top" ∧ name ≠ "_list" := by
  decide

/-- An object that has under the four names what a JSON object has. -/
structure Shows (obj : Value) (fields : List (String × Json)) : Prop where
  isObject : obj.isObject = true
  find : ∀ name ∈ contractNames, obj.find name = (Json.lookup name fields).map Value.ofPlain

theorem shows_ofPlain (fields : List (String × Json)) :
    Shows (Value.ofPlain (.object fields)) fields where
  isObject := by rw [Value.ofPlain]; rfl
  find := by
    intro name _
    rw [Value.ofPlain, Value.find, Value.lookup_ofPlainFields]
    cases Json.lookup name fields <;> rfl

/-- To hold itself takes nothing from an object. -/
theorem Shows.cyclic {obj : Value} {fields : List (String × Json)} (h : Shows obj fields) :
    Shows (.cyclic obj) fields where
  isObject := rfl
  find := by
    intro name hname
    have hself : name ≠ "_top" ∧ name ≠ "_list" := contractNames_not_self name hname
    rw [Value.find, if_neg hself.1, if_neg hself.2]
    exact h.find name hname

/-- The fields that are handed over for a JSON object, with the relevance that a script reads. -/
def contractOf (fields : List (String × Json)) (n : Int) : OptionalFields :=
  [("value", Json.lookup "value" fields), ("language", Json.lookup "language" fields),
    ("illegal", some (.boolean (((Json.lookup "illegal" fields).map Json.isTruthy).getD false))),
    ("relevance", some (.int n))]

theorem Shows.get {obj : Value} {fields : List (String × Json)} (h : Shows obj fields)
    {name : String} (hname : name ∈ contractNames) :
    obj.get name = .ok (Value.ofPlain? (Json.lookup name fields)) := by
  rw [Value.get, h.find name hname]
  exact Value.settle_ofPlain? _

/-- The object that is handed over for an object: its four fields, two of them coerced. -/
def contractFields (v : Value) : Run Value := do
  let value ← v.get "value"
  let language ← v.get "language"
  let illegal ← v.get "illegal"
  let relevance ← v.get "relevance"
  let number ← relevance.toInt32
  .ok (.record .undefined [("value", value), ("language", language),
    ("illegal", .boolean illegal.toBoolean), ("relevance", .ofDouble (Binary64.ofInt number))])

/-- The JSON text of a result: of its four fields if it is an object. -/
def resultText (v : Value) : Run (Option String) := do
  let shown ← if v.isObject then contractFields v else .ok v
  shown.toJson

/-- The error that is reported for a failure. -/
def Failure.toError (f : Failure) : Error :=
  .engine f.message

/-- Only the four fields are read, and only the relevance may be refused. -/
theorem contractFields_of_get {obj value language illegal relevance : Value}
    (hvalue : obj.get "value" = .ok value) (hlanguage : obj.get "language" = .ok language)
    (hillegal : obj.get "illegal" = .ok illegal)
    (hrelevance : obj.get "relevance" = .ok relevance) :
    contractFields obj = relevance.toInt32.map fun n =>
      .record .undefined [("value", value), ("language", language),
        ("illegal", .boolean illegal.toBoolean), ("relevance", .ofDouble (Binary64.ofInt n))] := by
  rw [contractFields, hvalue, hlanguage, hillegal, hrelevance]
  simp only [bind, Except.bind]
  cases relevance.toInt32 <;> rfl

section Library

variable {handler : InterruptHandler} {now : Nat} {r : Realm} {α β : Type}

theorem pure_bind_apply (a : α) (f : α → Execution Realm β) :
    (pure a >>= f : Execution Realm β) handler now r = f a handler now r := by
  cases h : f a handler now r <;>
    simp [Bind.bind, Execution.bind, Pure.pure, Execution.ofExcept, h]

theorem execution_bind_apply (x : Run α) (f : α → Execution Realm β) :
    (execution x >>= f) handler now r =
      match x with
      | .ok a => f a handler now r
      | .error e => some ⟨.error e.message, r, 0⟩ := by
  cases x with
  | error e => rfl
  | ok a => exact pure_bind_apply a f

theorem library_field_bind (v : Value) (name : String) (f : Item → Execution Realm β) :
    (library.field (.value v) name >>= f) handler now r =
      match v.get name with
      | .ok w => f (.value w) handler now r
      | .error e => some ⟨.error e.message, r, 0⟩ := by
  have hfield : (library.field (.value v) name >>= f) handler now r =
      (execution ((v.get name).map Item.value) >>= f) handler now r := rfl
  rw [hfield, execution_bind_apply]
  cases v.get name <;> rfl

theorem library_newObject : library.newObject = pure (.value (.record .undefined [])) := rfl

theorem library_setField (fields : List (String × Value)) (name : String) (v : Value) :
    library.setField (.value (.record .undefined fields)) name (.value v) =
      pure (.value (.record .undefined (Value.setField name v fields))) := rfl

theorem library_toInt32 (v : Value) :
    library.toInt32 (.value v) = execution (v.toInt32.map Int32.ofInt) := rfl

theorem library_toBoolean (v : Value) : library.toBoolean (.value v) = v.toBoolean := rfl

theorem library_ofBoolean (b : Bool) : library.ofBoolean b = .value (.boolean b) := rfl

theorem library_ofInt32 {n : Int} (hlow : -2 ^ 31 ≤ n) (hhigh : n < 2 ^ 31) :
    library.ofInt32 (Int32.ofInt n) = .value (.ofDouble (Binary64.ofInt n)) := by
  have hn : (Int32.ofInt n).toInt = n := Int32.toInt_ofInt_of_le hlow hhigh
  simp only [library, hn]

/-- The interpreter of payloads hands over the same fields. -/
theorem library_contractFields (obj : Value) :
    library.contractFields (.value obj) handler now r =
      execution ((contractFields obj).map Item.value) handler now r := by
  simp only [ScriptLibrary.contractFields, library_newObject, pure_bind_apply, library_field_bind,
    library_setField, library_toInt32, execution_bind_apply]
  cases hvalue : obj.get "value" with
  | error e =>
      rw [contractFields, hvalue]
      rfl
  | ok value =>
      cases hlanguage : obj.get "language" with
      | error e =>
          rw [contractFields, hvalue, hlanguage]
          rfl
      | ok language =>
          cases hillegal : obj.get "illegal" with
          | error e =>
              rw [contractFields, hvalue, hlanguage, hillegal]
              rfl
          | ok illegal =>
              cases hrelevance : obj.get "relevance" with
              | error e =>
                  rw [contractFields, hvalue, hlanguage, hillegal, hrelevance]
                  rfl
              | ok relevance =>
                  rw [contractFields_of_get hvalue hlanguage hillegal hrelevance]
                  cases hn : relevance.toInt32 with
                  | error e =>
                      simp only [hn, Except.map]
                      rfl
                  | ok n =>
                      obtain ⟨hlow, hhigh⟩ := Value.toInt32_bounds hn
                      simp only [hn, Except.map, library_toBoolean, library_ofBoolean,
                        library_ofInt32 hlow hhigh, library_setField, pure_bind_apply]
                      rfl

theorem library_stringify (v : Value) :
    library.stringify (.value v) = execution (v.toJson.map (Option.map Item.ofText)) := rfl

theorem library_text_ofText (s : String) : library.text (.ofText s) = pure s := by
  have htext : (Item.ofText s).text? = some s := Text.ofUnits?_units s
  simp only [library, htext]
  rfl

theorem library_jsonText (v : Value) :
    library.jsonText (.value v) handler now r = execution v.toJson handler now r := by
  simp only [ScriptLibrary.jsonText, library_stringify, execution_bind_apply]
  cases v.toJson with
  | error e => rfl
  | ok json =>
      cases json with
      | none => rfl
      | some json =>
          simp only [Except.map, Option.map_some, library_text_ofText, pure_bind_apply]
          rfl

/-- So its text of a result is the one that the language gives. -/
theorem library_resultText (obj : Value) :
    library.resultText (.value obj) handler now r =
      some ⟨(resultText obj).mapError Failure.message, r, 0⟩ := by
  by_cases hobject : obj.isObject = true
  · have hchecked : library.object (.value obj) = .ok (.value obj) := if_pos hobject
    have hfields : library.contractFields (.value obj) handler now r =
        execution ((contractFields obj).map Item.value) handler now r :=
      library_contractFields obj
    simp only [ScriptLibrary.resultText, resultText, hchecked, if_pos hobject]
    cases hcontract : contractFields obj with
    | error e =>
        rw [hcontract] at hfields
        exact Execution.bind_of_error hfields
    | ok fields =>
        rw [hcontract] at hfields
        rw [Execution.bind_of_ok hfields, library_jsonText]
        simp only [execution, Execution.ofExcept, Option.map_some, Nat.zero_add]
        rfl
  · obtain ⟨message, hchecked⟩ : ∃ message, library.object (.value obj) = .error message :=
      ⟨_, if_neg hobject⟩
    simp only [ScriptLibrary.resultText, resultText, hchecked, if_neg hobject, pure_bind_apply,
      library_jsonText]
    rfl

end Library

theorem Shows.contractFields {obj : Value} {fields : List (String × Json)} (h : Shows obj fields) :
    contractFields obj =
      (Value.ofPlain? (Json.lookup "relevance" fields)).toInt32.map
        fun n => .record .undefined (contractOf fields n).held := by
  rw [contractFields_of_get (h.get (by simp [contractNames])) (h.get (by simp [contractNames]))
    (h.get (by simp [contractNames])) (h.get (by simp [contractNames])),
    Value.toBoolean_ofPlain?]
  rfl

/-- What decoding gives of an object that a call returned. -/
def handedOver (call : EngineCall) (obj : Value) : Except Error EngineResult := do
  let text ← (resultText obj).mapError Failure.toError
  let answer ← call.decode text
  EngineResult.ofAnswer answer

/-- What is handed over has the fields that were there, and the two coerced ones always. -/
theorem lookup_contract (fields : List (String × Json)) (n : Int) :
    ∃ known, WrittenField.collect [] (contractOf fields n).written = known ∧
      Json.lookup "value" known = Json.lookup "value" fields ∧
      Json.lookup "language" known = Json.lookup "language" fields ∧
      Json.lookup "illegal" known =
        some (.boolean (((Json.lookup "illegal" fields).map Json.isTruthy).getD false)) ∧
      Json.lookup "relevance" known = some (.int n) := by
  refine ⟨_, rfl, ?_⟩
  rw [contractOf]
  cases Json.lookup "value" fields <;> cases Json.lookup "language" fields <;>
    refine ⟨?_, ?_, ?_, ?_⟩ <;> rfl

theorem ofAnswer_contract (fields : List (String × Json)) {n : Int} (hlow : -2 ^ 31 ≤ n)
    (hhigh : n < 2 ^ 31) :
    EngineResult.ofAnswer (.object (WrittenField.collect [] (contractOf fields n).written)) =
      (EngineResult.ofAnswer (.object fields)).map fun r => { r with relevance := n.toNat } := by
  have hrelevance : (Json.int n).toRelevance = n.toNat :=
    congrArg Int.toNat (Binary64.toInt32_ofInt hlow hhigh)
  obtain ⟨known, hknown, hvalue, hlanguage, hillegal, hnumber⟩ := lookup_contract fields n
  have hrequired : ∀ name, Json.lookup name known = Json.lookup name fields →
      EngineResult.requiredText known name = EngineResult.requiredText fields name := by
    intro name hname
    rw [EngineResult.requiredText, EngineResult.requiredText, hname]
  rw [hknown, EngineResult.ofAnswer, EngineResult.ofAnswer, hrequired _ hvalue,
    hrequired _ hlanguage, hillegal, hnumber]
  cases EngineResult.requiredText fields "value" with
  | error e => rfl
  | ok value =>
      cases EngineResult.requiredText fields "language" with
      | error e => rfl
      | ok language =>
          simp only [bind, Except.bind, Except.map, Option.map_some, Option.getD_some, hrelevance]
          rfl

/-- A result with a value and a language that are no lists, objects or fractions decodes, when it
is handed over, as it would by itself, with the relevance that a script reads. -/
theorem handedOver_eq {call : EngineCall} {obj : Value} {fields : List (String × Json)}
    (h : Shows obj fields) (hvalue : ∀ v, Json.lookup "value" fields = some v → v.IsAtom)
    (hlanguage : ∀ v, Json.lookup "language" fields = some v → v.IsAtom) {n : Int}
    (hn : (Value.ofPlain? (Json.lookup "relevance" fields)).toInt32 = .ok n) :
    handedOver call obj =
      (EngineResult.ofAnswer (.object fields)).map fun r => { r with relevance := n.toNat } := by
  obtain ⟨hlow, hhigh⟩ := Value.toInt32_bounds hn
  have hatomic : (contractOf fields n).IsAtomic := by
    intro f hf v hv
    simp only [contractOf, List.mem_cons, List.not_mem_nil, or_false] at hf
    rcases hf with rfl | rfl | rfl | rfl
    · exact hvalue v hv
    · exact hlanguage v hv
    · cases hv
      trivial
    · cases hv
      show n.natAbs < 2 ^ 53
      omega
  have hnames : (contractOf fields n).IsPlainNamed := fun f hf =>
    contractNames_plain f.1 (List.mem_map_of_mem (f := Prod.fst) hf)
  obtain ⟨text, htext, hread⟩ := OptionalFields.read_held hatomic hnames
  have hshown : resultText obj = .ok (some text) := by
    rw [resultText, if_pos h.isObject, h.contractFields, hn]
    exact htext
  rw [handedOver, hshown]
  show (call.decode (some text)).bind EngineResult.ofAnswer = _
  rw [EngineCall.decode, hread]
  exact ofAnswer_contract fields hlow hhigh

theorem handedOver_of_error {call : EngineCall} {obj : Value} {fields : List (String × Json)}
    (h : Shows obj fields) {e : Failure}
    (he : (Value.ofPlain? (Json.lookup "relevance" fields)).toInt32 = .error e) :
    handedOver call obj = .error e.toError := by
  have hshown : resultText obj = .error e := by
    rw [resultText, if_pos h.isObject, h.contractFields, he]
    rfl
  rw [handedOver, hshown]
  rfl

/-! ## The two decodings -/

theorem relevance_of_ofAnswer {fields : List (String × Json)} {r : EngineResult}
    (h : EngineResult.ofAnswer (.object fields) = .ok r) :
    r.relevance = ((Json.lookup "relevance" fields).map Json.toRelevance).getD 0 :=
  (EngineResult.ofAnswer_object_eq_ok_iff.mp h).relevance

/-- Decoding fails with an offence of the answer, and never with one of the script. -/
theorem ofAnswer_ne_toError (fields : List (String × Json)) (e : Failure) :
    EngineResult.ofAnswer (.object fields) ≠ .error e.toError := by
  have hrequired : ∀ name, EngineResult.requiredText fields name ≠ .error e.toError := by
    intro name
    rw [EngineResult.requiredText]
    split <;> simp [Failure.toError]
  rw [EngineResult.ofAnswer]
  cases hvalue : EngineResult.requiredText fields "value" with
  | error e' =>
      rintro ⟨⟩
      exact hrequired _ hvalue
  | ok value =>
      cases hlanguage : EngineResult.requiredText fields "language" with
      | error e' =>
          rintro ⟨⟩
          exact hrequired _ hlanguage
      | ok language => rintro ⟨⟩

/-- How the decoding of a result that was handed over relates to the object's own. It has the
relevance that a script reads, and fails if a script can make no number of it, so the two are the
same iff that relevance is the decoder's; and it is for all but some texts, lists and objects. -/
structure HandoverSpec (call : EngineCall) (obj : Value) (fields : List (String × Json)) :
    Prop where
  /-- The interpreter of payloads hands over the text that is decoded. -/
  run : ∀ handler now r, library.resultText (.value obj) handler now r =
    some ⟨(resultText obj).mapError Failure.message, r, 0⟩
  result : handedOver call obj =
    match (Value.ofPlain? (Json.lookup "relevance" fields)).toInt32 with
    | .ok n => (EngineResult.ofAnswer (.object fields)).map fun r => { r with relevance := n.toNat }
    | .error e => .error e.toError
  eq_iff : handedOver call obj = EngineResult.ofAnswer (.object fields) ↔
    ∃ n, (Value.ofPlain? (Json.lookup "relevance" fields)).toInt32 = .ok n ∧
      ∀ r, EngineResult.ofAnswer (.object fields) = .ok r → r.relevance = n.toNat
  eq_of_alike : (∀ v, Json.lookup "relevance" fields = some v → v.ReadsAlike) →
    handedOver call obj = EngineResult.ofAnswer (.object fields)

theorem handedOver_eq_iff {call : EngineCall} {obj : Value} {fields : List (String × Json)}
    (h : Shows obj fields) (hvalue : ∀ v, Json.lookup "value" fields = some v → v.IsAtom)
    (hlanguage : ∀ v, Json.lookup "language" fields = some v → v.IsAtom) :
    handedOver call obj = EngineResult.ofAnswer (.object fields) ↔
      ∃ n, (Value.ofPlain? (Json.lookup "relevance" fields)).toInt32 = .ok n ∧
        ∀ r, EngineResult.ofAnswer (.object fields) = .ok r → r.relevance = n.toNat := by
  cases hn : (Value.ofPlain? (Json.lookup "relevance" fields)).toInt32 with
  | error e =>
      have hne := ofAnswer_ne_toError fields e
      simp [handedOver_of_error h hn, hne.symm]
  | ok n =>
      rw [handedOver_eq h hvalue hlanguage hn]
      cases EngineResult.ofAnswer (.object fields) with
      | error e => simp [Except.map]
      | ok r =>
          obtain ⟨value, illegal, relevance, language⟩ := r
          simp [Except.map, eq_comm]

theorem handedOver_spec {call : EngineCall} {obj : Value} {fields : List (String × Json)}
    (h : Shows obj fields) (hvalue : ∀ v, Json.lookup "value" fields = some v → v.IsAtom)
    (hlanguage : ∀ v, Json.lookup "language" fields = some v → v.IsAtom) :
    HandoverSpec call obj fields where
  run _ _ _ := library_resultText obj
  result := by
    cases hn : (Value.ofPlain? (Json.lookup "relevance" fields)).toInt32 with
    | ok n => exact handedOver_eq h hvalue hlanguage hn
    | error e => exact handedOver_of_error h hn
  eq_iff := handedOver_eq_iff h hvalue hlanguage
  eq_of_alike := by
    intro halike
    obtain ⟨n, hn, hread⟩ := Value.toInt32_ofPlain? halike
    refine (handedOver_eq_iff h hvalue hlanguage).mpr ⟨n, hn, ?_⟩
    intro r hr
    rw [hread]
    exact relevance_of_ofAnswer hr

/-- An object that also holds itself, with a numeral between blanks as its relevance. -/
theorem handedOver_spec_cyclic :
    handedOver .auto (.cyclic (Value.ofPlain (.object [("value", .string "<b>\"\n"),
      ("language", .string "y"), ("illegal", .array []), ("relevance", .string " +7.9e0 ")]))) =
    .ok ⟨"<b>\"\n", true, 7, "y"⟩ := by
  have hshows := (shows_ofPlain [("value", .string "<b>\"\n"), ("language", .string "y"),
    ("illegal", .array []), ("relevance", .string " +7.9e0 ")]).cyclic
  have hvalue : ∀ v, some (Json.string "<b>\"\n") = some v → v.IsAtom := by
    rintro v ⟨⟩
    trivial
  have hlanguage : ∀ v, some (Json.string "y") = some v → v.IsAtom := by
    rintro v ⟨⟩
    trivial
  have hrelevance : ∀ v, some (Json.string " +7.9e0 ") = some v → v.ReadsAlike := by
    rintro v ⟨⟩
    exact Numeral.readsAlike_of_mem (by simp) (by decide)
  rw [(handedOver_spec hshows hvalue hlanguage).eq_of_alike hrelevance]
  decide +kernel

/-- A script reads the digits behind a radix, the decoder only the zero in front of it. -/
theorem handedOver_radix :
    handedOver .auto (Value.ofPlain (.object [("value", .string "x"), ("language", .string "y"),
      ("relevance", .string "0x10")])) ≠
    EngineResult.ofAnswer (.object [("value", .string "x"), ("language", .string "y"),
      ("relevance", .string "0x10")]) := by
  decide +kernel

end Script

end LineHighlight
