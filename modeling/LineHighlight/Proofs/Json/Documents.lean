import LineHighlight.Proofs.Json.Objects
import Mathlib.Data.List.DropRight

/-! Written documents and their reading.
A document without doubles whose objects have no key twice reads back from its text, be it on one
line or indented, as long as it is not nested too deep. -/

namespace LineHighlight.Json

/-- Documents that are written without loss, nested at most so deep. -/
inductive IsExact : Nat → Json → Prop
  | null {depth : Nat} : IsExact depth .null
  | boolean {depth : Nat} (b : Bool) : IsExact depth (.boolean b)
  | integer {depth : Nat} {n : Int} (hlow : -2 ^ 63 ≤ n) (hhigh : n < 2 ^ 64) :
      IsExact depth (.number (.integer n))
  | string {depth : Nat} (s : String) : IsExact depth (.string s)
  | array {depth : Nat} {items : List Json} (hitems : ∀ v ∈ items, IsExact depth v) :
      IsExact (depth + 1) (.array items)
  | object {depth : Nat} {fields : List (String × Json)} (hkeys : (fields.map Prod.fst).Nodup)
      (hfields : ∀ f ∈ fields, IsExact depth f.2) : IsExact (depth + 1) (.object fields)

/-! ## Arrays -/

section Arrays

variable {scale : Scaling} {depth : Nat} {v : Json} {cs rest : List Char}

theorem readValue_bracket (scale : Scaling) (depth : Nat) (cs : List Char) :
    readValue scale (depth + 1) ('[' :: cs) =
      (readItems (readValue scale depth) (cs.length + 1) true cs).map
        fun p => (.array p.1, p.2) := by
  rw [readValue.eq_def]; rfl

/-- A value starts behind the blanks, and not with a closing bracket. -/
theorem exists_head_of_readValue (h : readValue scale depth cs = .ok (v, rest)) :
    ∃ c tail, skipSpace cs = c :: tail ∧ c ≠ ']' ∧
      readValue scale depth (c :: tail) = .ok (v, rest) := by
  cases hskip : skipSpace cs with
  | nil => simp [readValue.eq_def, hskip] at h
  | cons c tail =>
      have hagain : skipSpace (c :: tail) = c :: tail := by
        rw [← hskip]
        exact List.dropWhile_idempotent ..
      refine ⟨c, tail, rfl, ?_, ?_⟩
      · rintro rfl
        simp [readValue.eq_def, hskip, Char.isDigit] at h
      · simpa only [readValue.eq_def scale depth, hskip, hagain] using h

theorem readItems_first (h : readValue scale depth cs = .ok (v, rest)) (fuel : Nat) :
    readItems (readValue scale depth) (fuel + 1) true cs =
      (readItems (readValue scale depth) fuel false rest).map fun p => (v :: p.1, p.2) := by
  obtain ⟨c, tail, hskip, hne, hread⟩ := exists_head_of_readValue h
  simp [readItems, hskip, hread, bind, Except.bind, Except.map]

theorem readItems_comma (h : readValue scale depth cs = .ok (v, rest)) (fuel : Nat) :
    readItems (readValue scale depth) (fuel + 1) false (',' :: cs) =
      (readItems (readValue scale depth) fuel false rest).map fun p => (v :: p.1, p.2) := by
  obtain ⟨c, tail, hskip, hne, hread⟩ := exists_head_of_readValue h
  have hcomma : skipSpace (',' :: cs) = ',' :: cs := rfl
  simp [readItems, hcomma, hskip, hne, hread, bind, Except.bind, Except.map]

theorem endsNumeral_bracket (rest : List Char) : EndsNumeral (']' :: rest) := by
  simp [EndsNumeral, Char.isDigit]

variable {text : Json → List Char} {close : List Char} {vs : List Json}

/-- What comes behind an element is a comma and the next one, or the end of the array. -/
theorem endsNumeral_items (hclose : IsGap close) (text : Json → List Char) (vs : List Json)
    (rest : List Char) :
    EndsNumeral (vs.flatMap (',' :: text ·) ++ (close ++ ']' :: rest)) := by
  cases vs with
  | nil => exact hclose.endsNumeral (endsNumeral_bracket rest)
  | cons v vs => exact endsNumeral_comma _

/-- The elements after the first one. -/
theorem readItems_more (hclose : IsGap close)
    (hvs : ∀ v ∈ vs, ReadsAs (readValue scale depth) (text v) v) (rest : List Char) :
    ∀ fuel, vs.length < fuel →
      readItems (readValue scale depth) fuel false
        (vs.flatMap (',' :: text ·) ++ (close ++ ']' :: rest)) = .ok (vs, rest) := by
  induction vs with
  | nil =>
      intro fuel hfuel
      obtain ⟨fuel, rfl⟩ := Nat.exists_eq_succ_of_ne_zero (Nat.ne_of_gt hfuel)
      have hbracket : skipSpace (']' :: rest) = ']' :: rest := rfl
      simp [readItems, hclose.skipSpace_append, hbracket]
  | cons v vs ih =>
      intro fuel hfuel
      obtain ⟨fuel, rfl⟩ := Nat.exists_eq_succ_of_ne_zero (Nat.ne_of_gt (Nat.zero_lt_of_lt hfuel))
      have hmore := ih (fun w hw => hvs w (List.mem_cons_of_mem v hw)) fuel
        (Nat.lt_of_succ_lt_succ hfuel)
      have hread := hvs v List.mem_cons_self _ (endsNumeral_items hclose text vs rest)
      rw [List.flatMap_cons, List.cons_append, List.cons_append, List.append_assoc,
        readItems_comma hread, hmore]
      rfl

theorem length_le_length_items (text : Json → List Char) (vs : List Json) :
    vs.length ≤ (vs.flatMap (',' :: text ·)).length := by
  induction vs with
  | nil => exact Nat.le_refl 0
  | cons v vs ih =>
      rw [List.flatMap_cons, List.length_append, List.length_cons, List.length_cons]
      omega

theorem readsAs_noItems (scale : Scaling) (depth : Nat) :
    ReadsAs (readValue scale (depth + 1)) ['[', ']'] (.array []) := by
  intro rest _
  rw [readValue.eq_def]
  rfl

/-- The text of an array with at least one element reads as its elements. -/
theorem readsAs_array (hclose : IsGap close)
    (hvs : ∀ w ∈ v :: vs, ReadsAs (readValue scale depth) (text w) w) :
    ReadsAs (readValue scale (depth + 1))
      ('[' :: (text v ++ (vs.flatMap (',' :: text ·) ++ (close ++ [']'])))) (.array (v :: vs)) := by
  intro rest _
  have hlength := length_le_length_items text vs
  have hread := hvs v List.mem_cons_self _ (endsNumeral_items hclose text vs rest)
  simp only [List.cons_append, List.append_assoc, List.nil_append]
  rw [readValue_bracket, readItems_first hread,
    readItems_more hclose fun w hw => hvs w (List.mem_cons_of_mem v hw)]
  · rfl
  · simp only [List.length_append, List.length_cons]
    omega

end Arrays

/-! ## Fields -/

theorem insert_of_notMem {key : String} {fields : List (String × Json)}
    (h : key ∉ fields.map Prod.fst) (v : Json) : insert key v fields = fields ++ [(key, v)] := by
  induction fields with
  | nil => rfl
  | cons f fields ih =>
      obtain ⟨k, w⟩ := f
      rw [List.map_cons, List.mem_cons, not_or] at h
      rw [insert, if_neg (Ne.symm h.1), ih h.2]
      rfl

namespace WrittenField

/-- A field with the text that its value is written with. -/
def of (text : Json → List Char) (f : String × Json) : WrittenField :=
  ⟨f.1, text f.2, f.2⟩

/-- Fields without a common key are read one by one. -/
theorem collect_of (text : Json → List Char) {known fields : List (String × Json)}
    (hkeys : ((known ++ fields).map Prod.fst).Nodup) :
    collect known (fields.map (of text)) = known ++ fields := by
  induction fields generalizing known with
  | nil => simp [collect]
  | cons f fields ih =>
      have hfresh : f.1 ∉ known.map Prod.fst := by
        rw [List.map_append, List.map_cons] at hkeys
        exact fun hmem => (List.nodup_append.mp hkeys).2.2 f.1 hmem f.1 List.mem_cons_self rfl
      have hnext : collect (known ++ [f]) (fields.map (of text)) = known ++ [f] ++ fields :=
        ih (by simpa using hkeys)
      have hinsert : insert f.1 f.2 known = known ++ [f] := insert_of_notMem hfresh f.2
      rw [collect] at hnext ⊢
      rw [List.map_cons, List.foldl_cons, of, hinsert, hnext, List.append_assoc]
      rfl

end WrittenField

/-! ## Layouts -/

open WrittenField (of more)

theorem compactItems_cons (v : Json) (vs : List Json) :
    compactItems (v :: vs) = v.compactChars ++ vs.flatMap (',' :: compactChars ·) := by
  induction vs generalizing v with
  | nil => simp [compactItems]
  | cons w vs ih => simp [compactItems, ih w]

theorem compactFields_cons (f : String × Json) (fs : List (String × Json)) :
    compactFields (f :: fs) =
      (of compactChars f).chars ++ more [] (fs.map (of compactChars)) := by
  induction fs generalizing f with
  | nil => simp [compactFields, more, of, WrittenField.chars]
  | cons g fs ih => simp [compactFields, ih g, more, of, WrittenField.chars]

/-- An element behind the line break and the indentation of its level. -/
def onOwnLine (level : Nat) (v : Json) : List Char :=
  newLine level ++ v.prettyChars level

/-- The value of a field, behind a blank. -/
def behindBlank (level : Nat) (v : Json) : List Char :=
  [' '] ++ v.prettyChars level

theorem prettyItems_cons (level : Nat) (v : Json) (vs : List Json) :
    newLine level ++ prettyItems level (v :: vs) =
      onOwnLine level v ++ vs.flatMap (',' :: onOwnLine level ·) := by
  induction vs generalizing v with
  | nil => simp [prettyItems, onOwnLine]
  | cons w vs ih =>
      rw [List.flatMap_cons, List.cons_append, ← ih w]
      simp [prettyItems, onOwnLine]

theorem prettyFields_cons (level : Nat) (f : String × Json) (fs : List (String × Json)) :
    prettyFields level (f :: fs) =
      (of (behindBlank level) f).chars ++
        more (newLine level) (fs.map (of (behindBlank level))) := by
  induction fs generalizing f with
  | nil => simp [prettyFields, more, of, WrittenField.chars, behindBlank]
  | cons g fs ih => simp [prettyFields, ih g, more, of, WrittenField.chars, behindBlank]

/-! ## Documents -/

section Documents

variable {scale : Scaling} {depth : Nat} {v : Json}

/-- If an object's values read back from their texts, so does the object. -/
theorem readsAs_fields {gap close : List Char} (hgap : IsGap gap) (hclose : IsGap close)
    {text : Json → List Char} {f : String × Json} {fs : List (String × Json)}
    (hkeys : ((f :: fs).map Prod.fst).Nodup)
    (htext : ∀ g ∈ f :: fs, ReadsAs (readValue scale depth) (text g.2) g.2) :
    ReadsAs (readValue scale (depth + 1))
      ('{' :: (gap ++ ((of text f).chars ++ (more gap (fs.map (of text)) ++ (close ++ ['}'])))))
      (.object (f :: fs)) := by
  have hwritten : ∀ g ∈ of text f :: fs.map (of text),
      ReadsAs (readValue scale depth) g.text g.value := by
    rw [← List.map_cons, List.forall_mem_map]
    exact htext
  have hcollect : WrittenField.collect [] ((f :: fs).map (of text)) = f :: fs :=
    WrittenField.collect_of text hkeys
  have hread := WrittenField.readsAs_laidOut scale depth hgap hclose hwritten
  rwa [← List.map_cons, hcollect] at hread

/-- A document reads back from its text on one line. -/
theorem IsExact.readsAs_compact (h : IsExact depth v) :
    ReadsAs (readValue scale depth) v.compactChars v := by
  induction h with
  | null => exact readsAs_null scale _
  | boolean b => exact readsAs_boolean scale _ b
  | integer hlow hhigh => exact readsAs_int scale _ hlow hhigh
  | string s => exact readsAs_quote scale _ s
  | @array _ items _ ih =>
      cases items with
      | nil => exact readsAs_noItems scale _
      | cons v vs =>
          have hread := readsAs_array isGap_nil ih
          rw [compactChars, compactItems_cons]
          simpa using hread
  | @object _ fields hkeys _ ih =>
      cases fields with
      | nil => exact readsAs_noFields scale _
      | cons f fs =>
          have hread := readsAs_fields isGap_nil isGap_nil hkeys ih
          rw [compactChars, compactFields_cons]
          simpa using hread

/-- A document reads back from its indented text, whatever the level it starts at. -/
theorem IsExact.readsAs_pretty (h : IsExact depth v) (level : Nat) :
    ReadsAs (readValue scale depth) (v.prettyChars level) v := by
  induction h generalizing level with
  | null => exact readsAs_null scale _
  | boolean b => exact readsAs_boolean scale _ b
  | integer hlow hhigh => exact readsAs_int scale _ hlow hhigh
  | string s => exact readsAs_quote scale _ s
  | @array _ items _ ih =>
      cases items with
      | nil => exact readsAs_noItems scale _
      | cons v vs =>
          have hitems : ∀ w ∈ v :: vs, ReadsAs (readValue scale _) (onOwnLine (level + 1) w) w :=
            fun w hw => (ih w hw (level + 1)).behind_gap (isGap_newLine (level + 1))
          have hread := readsAs_array (isGap_newLine level) hitems
          rw [prettyChars, List.cons_append, prettyItems_cons]
          simpa using hread
  | @object _ fields hkeys _ ih =>
      cases fields with
      | nil => exact readsAs_noFields scale _
      | cons f fs =>
          have hfields : ∀ g ∈ f :: fs,
              ReadsAs (readValue scale _) (behindBlank (level + 1) g.2) g.2 :=
            fun g hg => (ih g hg (level + 1)).behind_gap isGap_blank
          have hread := readsAs_fields (isGap_newLine (level + 1)) (isGap_newLine level) hkeys
            hfields
          rw [prettyChars, prettyFields_cons]
          simpa using hread

theorem readWith_compact (h : IsExact depthLimit v) (scale : Scaling) :
    readWith scale v.compact = .ok v :=
  readWith_of_readsAs h.readsAs_compact

theorem read_pretty (h : IsExact depthLimit v) : read v.pretty = .ok v :=
  readWith_of_readsAs (h.readsAs_pretty 0)

end Documents

end LineHighlight.Json
