import LineHighlight.Proofs.Json.Numerals
import LineHighlight.Proofs.Json.Strings
import Mathlib.Algebra.Ring.Int.Defs

/-! Written objects and their reading.
If every field's text reads as its value, the text of an object reads as its fields, whatever
blanks stand between them. -/

namespace LineHighlight.Json

/-! ## What the first character says -/

section Heads

variable (scale : Scaling) (depth : Nat) (cs : List Char)

theorem readValue_quote :
    readValue scale depth ('"' :: cs) = (readString cs).map fun p => (.string p.1, p.2) := by
  rw [readValue.eq_def]; rfl

theorem readValue_minus :
    readValue scale depth ('-' :: cs) =
      (readNumber scale true cs).map fun p => (.number p.1, p.2) := by
  rw [readValue.eq_def]; rfl

theorem readValue_brace :
    readValue scale (depth + 1) ('{' :: cs) =
      (readFields (readValue scale depth) (cs.length + 1) true [] cs).map
        fun p => (.object p.1, p.2) := by
  rw [readValue.eq_def]; rfl

theorem readValue_digit {c : Char} (hc : c.isDigit = true) :
    readValue scale depth (c :: cs) =
      (readNumber scale false (c :: cs)).map fun p => (.number p.1, p.2) := by
  have hne : ∀ d : Char, d.isDigit = false → c ≠ d := by
    rintro d hd rfl
    exact absurd hc (by simp [hd])
  have hspace : isSpace c = false := by
    simp [isSpace, hne ' ' rfl, hne '\n' rfl, hne '\t' rfl, hne '\r' rfl]
  have hskip : skipSpace (c :: cs) = c :: cs := by
    simp [skipSpace, hspace]
  rw [readValue.eq_def]
  simp [hskip, hc, hne 'n' rfl, hne 't' rfl, hne 'f' rfl, hne '"' rfl, hne '-' rfl, hne '[' rfl,
    hne '{' rfl]

end Heads

/-! ## Blanks between tokens -/

/-- A text of blanks. -/
def IsGap (gap : List Char) : Prop :=
  ∀ c ∈ gap, isSpace c = true

theorem isGap_nil : IsGap [] := by
  simp [IsGap]

theorem isGap_blank : IsGap [' '] := by
  simp [IsGap, isSpace]

theorem isGap_newLine (level : Nat) : IsGap (newLine level) := by
  intro c hc
  rcases List.mem_cons.mp hc with rfl | hblank
  · rfl
  · rw [List.eq_of_mem_replicate hblank]
    rfl

section Gap

variable {gap : List Char}

theorem IsGap.skipSpace_append (h : IsGap gap) (cs : List Char) :
    skipSpace (gap ++ cs) = skipSpace cs :=
  List.dropWhile_append_of_pos h

theorem IsGap.endsNumeral (h : IsGap gap) {rest : List Char} (hrest : EndsNumeral rest) :
    EndsNumeral (gap ++ rest) := by
  cases gap with
  | nil => exact hrest
  | cons c gap =>
      have hc : isSpace c = true := h c List.mem_cons_self
      simp only [isSpace, Bool.or_eq_true, decide_eq_true_eq] at hc
      rintro d ⟨⟩
      rcases hc with ((rfl | rfl) | rfl) | rfl <;> decide

theorem readValue_gap (h : IsGap gap) (scale : Scaling) (depth : Nat) (cs : List Char) :
    readValue scale depth (gap ++ cs) = readValue scale depth cs := by
  simp only [readValue.eq_def scale depth, h.skipSpace_append]

end Gap

/-- A text that reads as a value wherever a numeral may end behind it. -/
def ReadsAs (item : ItemReader) (text : List Char) (v : Json) : Prop :=
  ∀ rest, EndsNumeral rest → item (text ++ rest) = .ok (v, rest)

theorem ReadsAs.behind_gap {gap : List Char} (hgap : IsGap gap) {scale : Scaling} {depth : Nat}
    {text : List Char} {v : Json} (h : ReadsAs (readValue scale depth) text v) :
    ReadsAs (readValue scale depth) (gap ++ text) v := by
  intro rest hrest
  rw [List.append_assoc, readValue_gap hgap]
  exact h rest hrest

/-! ## Values without parts -/

section Atoms

variable (scale : Scaling) (depth : Nat)

theorem readsAs_null : ReadsAs (readValue scale depth) "null".toList .null := by
  intro rest _
  rw [readValue.eq_def]
  rfl

theorem readsAs_boolean (b : Bool) :
    ReadsAs (readValue scale depth) (if b then "true" else "false").toList (.boolean b) := by
  intro rest _
  rw [readValue.eq_def]
  cases b <;> rfl

theorem readsAs_quote (s : String) : ReadsAs (readValue scale depth) (quote s) (.string s) := by
  intro rest _
  rw [quote, List.cons_append, List.cons_append, readValue_quote, List.append_assoc,
    List.singleton_append, readString_escaped]
  rfl

theorem readsAs_toDigits {n : Nat} (hn : n < 2 ^ 64) :
    ReadsAs (readValue scale depth) (Nat.toDigits 10 n) (nat n) := by
  intro rest hrest
  obtain ⟨c, ds, hcons, hdigit, -⟩ := toDigits_eq_cons n
  have hread := readNumber_toDigits scale false hn hrest
  rw [hcons, List.cons_append] at hread ⊢
  rw [readValue_digit scale depth _ hdigit, hread]
  rfl

/-- An integer of 64 bits reads as itself. -/
theorem readsAs_int {n : Int} (hlow : -2 ^ 63 ≤ n) (hhigh : n < 2 ^ 64) :
    ReadsAs (readValue scale depth) (toString n).toList (int n) := by
  cases n with
  | ofNat n =>
      have htext : (toString (Int.ofNat n)).toList = Nat.toDigits 10 n := by
        simp [toString, Int.repr, Nat.repr_eq_ofList_toDigits]
      rw [htext]
      exact readsAs_toDigits scale depth (Int.ofNat_lt.mp hhigh)
  | negSucc n =>
      have htext : (toString (Int.negSucc n)).toList = '-' :: Nat.toDigits 10 (n + 1) := by
        simp [toString, Int.repr, Nat.repr_eq_ofList_toDigits]
      intro rest hrest
      have hread := readNumber_toDigits scale true (n := n + 1) (by simp [significandLimit]; omega)
        hrest
      rw [if_pos rfl, if_neg (by simp; omega)] at hread
      rw [htext, List.cons_append, readValue_minus, hread]
      rfl

end Atoms

/-- A text that reads as a value wherever it stands is a document of that value. -/
theorem readWith_of_readsAs {scale : Scaling} {text : List Char} {v : Json}
    (h : ReadsAs (readValue scale depthLimit) text v) :
    readWith scale (String.ofList text) = .ok v := by
  have hread := h [] endsNumeral_nil
  rw [List.append_nil] at hread
  rw [readWith, String.toList_ofList, hread]
  rfl

/-! ## Objects -/

theorem readsAs_noFields (scale : Scaling) (depth : Nat) :
    ReadsAs (readValue scale (depth + 1)) ['{', '}'] (.object []) := by
  intro rest _
  rw [readValue.eq_def]
  rfl

/-- A field with the text of its value. -/
structure WrittenField where
  name : String
  text : List Char
  value : Json

namespace WrittenField

/-- The text of a field. -/
def chars (f : WrittenField) : List Char :=
  quote f.name ++ ':' :: f.text

/-- The fields that come of reading one field after the other. -/
def collect (known : List (String × Json)) (fs : List WrittenField) : List (String × Json) :=
  fs.foldl (fun fields f => insert f.name f.value fields) known

variable {item : ItemReader}

theorem readField_chars {f : WrittenField} (hf : ReadsAs item f.text f.value) {rest : List Char}
    (hrest : EndsNumeral rest) :
    readField item (f.name.toList.flatMap escapeChar ++ '"' :: ':' :: (f.text ++ rest)) =
      .ok ((f.name, f.value), rest) := by
  rw [readField, readString_escaped]
  have hcolon : skipSpace (':' :: (f.text ++ rest)) = ':' :: (f.text ++ rest) := rfl
  simp only [bind, Except.bind, hcolon, hf rest hrest]

theorem readFields_quote (fuel : Nat) (known : List (String × Json)) (cs : List Char) :
    readFields item (fuel + 1) true known ('"' :: cs) =
      (readField item cs).bind fun p =>
        readFields item fuel false (insert p.1.1 p.1.2 known) p.2 := rfl

theorem readFields_comma_quote (fuel : Nat) (known : List (String × Json)) (cs : List Char) :
    readFields item (fuel + 1) false known (',' :: '"' :: cs) =
      (readField item cs).bind fun p =>
        readFields item fuel false (insert p.1.1 p.1.2 known) p.2 := rfl

theorem readFields_gap {gap : List Char} (hgap : IsGap gap) (fuel : Nat) (first : Bool)
    (known : List (String × Json)) (cs : List Char) :
    readFields item fuel first known (gap ++ cs) = readFields item fuel first known cs := by
  cases fuel with
  | zero => rfl
  | succ fuel => simp only [readFields, hgap.skipSpace_append]

theorem readFields_comma_gap {gap : List Char} (hgap : IsGap gap) (fuel : Nat)
    (known : List (String × Json)) (cs : List Char) :
    readFields item fuel false known (',' :: (gap ++ cs)) =
      readFields item fuel false known (',' :: cs) := by
  have hcomma : ∀ cs, skipSpace (',' :: cs) = ',' :: cs := fun _ => rfl
  cases fuel with
  | zero => rfl
  | succ fuel => simp [readFields, hcomma, hgap.skipSpace_append]

/-- The fields after the first one, each behind a comma and a gap. -/
def more (gap : List Char) (fs : List WrittenField) : List Char :=
  fs.flatMap fun f => ',' :: (gap ++ f.chars)

theorem more_cons (gap : List Char) (f : WrittenField) (fs : List WrittenField) :
    more gap (f :: fs) = ',' :: (gap ++ (f.chars ++ more gap fs)) := by
  simp [more]

theorem endsNumeral_more_append (gap : List Char) (fs : List WrittenField) {rest : List Char}
    (hrest : EndsNumeral rest) : EndsNumeral (more gap fs ++ rest) := by
  cases fs with
  | nil => exact hrest
  | cons f fs => exact endsNumeral_comma _

/-- What comes behind a field is a comma and the next one, or the end of the object. -/
theorem endsNumeral_more (fs : List WrittenField) (rest : List Char) :
    EndsNumeral (fs.flatMap (',' :: chars ·) ++ '}' :: rest) :=
  endsNumeral_more_append [] fs (endsNumeral_brace rest)

theorem chars_append (f : WrittenField) (rest : List Char) :
    f.chars ++ rest =
      '"' :: (f.name.toList.flatMap escapeChar ++ '"' :: ':' :: (f.text ++ rest)) := by
  simp [chars, quote]

section Layout

variable {gap close : List Char} (hgap : IsGap gap) (hclose : IsGap close)
include hgap hclose

/-- The fields after the first one. -/
theorem readFields_more {fs : List WrittenField} (hfs : ∀ f ∈ fs, ReadsAs item f.text f.value)
    (rest : List Char) (known : List (String × Json)) :
    ∀ fuel, fs.length < fuel →
      readFields item fuel false known (more gap fs ++ (close ++ '}' :: rest)) =
        .ok (collect known fs, rest) := by
  induction fs generalizing known with
  | nil =>
      intro fuel hfuel
      obtain ⟨fuel, rfl⟩ := Nat.exists_eq_succ_of_ne_zero (Nat.ne_of_gt hfuel)
      exact readFields_gap hclose (fuel + 1) false known ('}' :: rest)
  | cons f fs ih =>
      intro fuel hfuel
      obtain ⟨fuel, rfl⟩ := Nat.exists_eq_succ_of_ne_zero (Nat.ne_of_gt (Nat.zero_lt_of_lt hfuel))
      have hmore := ih (fun g hg => hfs g (List.mem_cons_of_mem f hg)) (insert f.name f.value known)
        fuel (Nat.lt_of_succ_lt_succ hfuel)
      have hends := endsNumeral_more_append gap fs (hclose.endsNumeral (endsNumeral_brace rest))
      rw [more_cons, List.cons_append, List.append_assoc, List.append_assoc,
        readFields_comma_gap hgap, chars_append, readFields_comma_quote,
        readField_chars (hfs f List.mem_cons_self) hends]
      exact hmore

/-- The text of an object with at least one field reads as its fields. -/
theorem readFields_laidOut {f : WrittenField} {fs : List WrittenField}
    (hfs : ∀ g ∈ f :: fs, ReadsAs item g.text g.value) (rest : List Char) {fuel : Nat}
    (hfuel : fs.length + 1 < fuel) :
    readFields item fuel true [] (gap ++ (f.chars ++ (more gap fs ++ (close ++ '}' :: rest)))) =
      .ok (collect [] (f :: fs), rest) := by
  obtain ⟨fuel, rfl⟩ := Nat.exists_eq_succ_of_ne_zero (Nat.ne_of_gt (Nat.zero_lt_of_lt hfuel))
  have hmore := readFields_more hgap hclose (fun g hg => hfs g (List.mem_cons_of_mem f hg)) rest
    (insert f.name f.value []) fuel (Nat.lt_of_succ_lt_succ hfuel)
  have hends := endsNumeral_more_append gap fs (hclose.endsNumeral (endsNumeral_brace rest))
  rw [readFields_gap hgap, chars_append, readFields_quote,
    readField_chars (hfs f List.mem_cons_self) hends]
  exact hmore

end Layout

theorem joined_cons (f : WrittenField) (fs : List WrittenField) :
    (((f :: fs).map chars).intersperse [',']).flatten =
      f.chars ++ fs.flatMap (',' :: chars ·) := by
  induction fs generalizing f with
  | nil => simp
  | cons g fs ih =>
      rw [List.map_cons, List.map_cons, List.intersperse_cons_cons, List.flatten_cons,
        List.flatten_cons, ← List.map_cons, ih g]
      simp

theorem length_le_length_more (gap : List Char) (fs : List WrittenField) :
    fs.length ≤ (more gap fs).length := by
  induction fs with
  | nil => exact Nat.le_refl 0
  | cons f fs ih =>
      rw [more_cons, List.length_cons, List.length_cons, List.length_append, List.length_append]
      omega

/-- An object whose fields stand behind gaps reads as its fields. -/
theorem readsAs_laidOut (scale : Scaling) (depth : Nat) {gap close : List Char} (hgap : IsGap gap)
    (hclose : IsGap close) {f : WrittenField} {fs : List WrittenField}
    (hfs : ∀ g ∈ f :: fs, ReadsAs (readValue scale depth) g.text g.value) :
    ReadsAs (readValue scale (depth + 1))
      ('{' :: (gap ++ (f.chars ++ (more gap fs ++ (close ++ ['}'])))))
      (.object (collect [] (f :: fs))) := by
  intro rest _
  have hlength := length_le_length_more gap fs
  have hfirst : 0 < f.chars.length := by simp [chars, quote]
  simp only [List.cons_append, List.append_assoc, List.nil_append]
  rw [readValue_brace, readFields_laidOut hgap hclose hfs]
  · rfl
  · simp only [List.length_append, List.length_cons]
    omega

/-- The text of an object reads as its fields. -/
theorem readsAs_object (scale : Scaling) (depth : Nat) {fs : List WrittenField}
    (hfs : ∀ f ∈ fs, ReadsAs (readValue scale depth) f.text f.value) :
    ReadsAs (readValue scale (depth + 1))
      ('{' :: ((fs.map chars).intersperse [',']).flatten ++ ['}']) (.object (collect [] fs)) := by
  cases fs with
  | nil => exact readsAs_noFields scale depth
  | cons f fs =>
      have hread := readsAs_laidOut scale depth isGap_nil isGap_nil hfs
      rw [joined_cons, List.cons_append, List.append_assoc]
      exact hread

end WrittenField

end LineHighlight.Json
