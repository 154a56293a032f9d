import LineHighlight.Proofs.Json.Objects

/-! Texts that are refused.
The escape of a surrogate is refused unless it is the high one of a pair, and an object is refused
with the first of its fields whose text is. -/

namespace LineHighlight.Json

/-- A text from which nothing is read, whatever comes behind it. -/
def Refused (item : ItemReader) (text : List Char) : Prop :=
  ∀ rest, ∃ e, item (text ++ rest) = .error e

/-! ## Escapes of surrogates -/

/-- A text that goes on with the escape of a low surrogate. -/
def OpensLow (cs : List Char) : Prop :=
  ∃ digits n rest, cs = '\\' :: 'u' :: digits ∧ hexEscape digits = .ok (n, rest) ∧
    0xdc00 ≤ n ∧ n ≤ 0xdfff

theorem not_opensLow_quote (rest : List Char) : ¬ OpensLow ('"' :: rest) := by
  rintro ⟨digits, n, rest', ⟨⟩, -⟩

theorem not_opensLow_hex4 {n : Nat} (hn : n < 0x10000) (h : n < 0xdc00 ∨ 0xdfff < n)
    (rest : List Char) : ¬ OpensLow ('\\' :: 'u' :: (hex4 n ++ rest)) := by
  rintro ⟨digits, m, rest', hcons, hm, hlow, hhigh⟩
  obtain rfl : hex4 n ++ rest = digits := by simpa using hcons
  rw [hexEscape_hex4 hn] at hm
  cases hm
  omega

theorem not_opensLow_escapeChar (c : Char) (rest : List Char) :
    ¬ OpensLow (escapeChar c ++ rest) := by
  unfold escapeChar
  -- the seven characters that have a short escape
  iterate 7 (split; · rintro ⟨digits, n, rest', ⟨⟩, -⟩)
  split
  case isTrue hcontrol =>
    exact not_opensLow_hex4 (Nat.lt_trans hcontrol (by decide))
      (.inl (Nat.lt_trans hcontrol (by decide))) rest
  case isFalse hslash _ _ _ _ _ _ =>
    rintro ⟨digits, n, rest', hcons, -⟩
    exact hslash (List.cons.inj hcons).1

theorem unicodeEscape_low {n : Nat} (hlow : 0xdc00 ≤ n) (hhigh : n ≤ 0xdfff) (rest : List Char) :
    unicodeEscape (hex4 n ++ rest) = .error .loneSurrogate := by
  rw [unicodeEscape, hexEscape_hex4 (by omega)]
  simp only [bind, Except.bind, if_pos (And.intro hlow hhigh)]

theorem unicodeEscape_high {n : Nat} (hlow : 0xd800 ≤ n) (hhigh : n ≤ 0xdbff) {rest : List Char}
    (hrest : ¬ OpensLow rest) : ∃ e, unicodeEscape (hex4 n ++ rest) = .error e := by
  have hnot : ¬ (0xdc00 ≤ n ∧ n ≤ 0xdfff) := by omega
  rw [unicodeEscape, hexEscape_hex4 (by omega)]
  simp only [bind, Except.bind, if_neg hnot, if_pos (And.intro hlow hhigh)]
  split
  · exact ⟨_, rfl⟩
  · exact ⟨_, rfl⟩
  · next digits =>
    cases hdigits : hexEscape digits with
    | error e => exact ⟨e, rfl⟩
    | ok read =>
        obtain ⟨m, rest'⟩ := read
        have hm : ¬ (0xdc00 ≤ m ∧ m ≤ 0xdfff) := fun hm =>
          hrest ⟨digits, m, rest', rfl, hdigits, hm⟩
        exact ⟨.loneSurrogate, by simp only [if_neg hm]⟩
  · exact ⟨_, rfl⟩

/-! ## Strings -/

/-- The rest of a string, which is refused wherever the string began. -/
def RefusedString (cs : List Char) : Prop :=
  ∀ fuel acc, ∃ e, stringRest fuel acc cs = .error e

theorem RefusedString.escapeChar {cs : List Char} (h : RefusedString cs) (c : Char) :
    RefusedString (Json.escapeChar c ++ cs) := by
  intro fuel acc
  cases fuel with
  | zero => exact ⟨_, rfl⟩
  | succ fuel =>
      rw [stringRest_escapeChar]
      exact h fuel (c :: acc)

theorem refusedString_of_unicodeEscape {digits : List Char}
    (h : ∃ e, unicodeEscape digits = .error e) : RefusedString ('\\' :: 'u' :: digits) := by
  intro fuel acc
  cases fuel with
  | zero => exact ⟨_, rfl⟩
  | succ fuel =>
      obtain ⟨e, he⟩ := h
      exact ⟨e, by simp only [stringRest, escape, he]⟩

/-! ## Objects -/

namespace WrittenField

variable {item : ItemReader}

theorem readField_refused {text : List Char} (h : Refused item text) (name : String)
    (rest : List Char) :
    ∃ e, readField item (name.toList.flatMap escapeChar ++ '"' :: ':' :: (text ++ rest)) =
      .error e := by
  obtain ⟨e, he⟩ := h rest
  refine ⟨e, ?_⟩
  rw [readField, readString_escaped]
  have hcolon : skipSpace (':' :: (text ++ rest)) = ':' :: (text ++ rest) := rfl
  simp only [bind, Except.bind, hcolon, he]

/-- Behind fields that can be read, one that cannot ends the reading. -/
theorem readFields_more_refused {front : List WrittenField}
    (hfront : ∀ f ∈ front, ReadsAs item f.text f.value) {f : WrittenField}
    (hf : Refused item f.text) (back : List WrittenField) (rest : List Char)
    (known : List (String × Json)) (fuel : Nat) :
    ∃ e, readFields item fuel false known
      ((front ++ f :: back).flatMap (',' :: chars ·) ++ '}' :: rest) = .error e := by
  induction front generalizing known fuel with
  | nil =>
      cases fuel with
      | zero => exact ⟨_, rfl⟩
      | succ fuel =>
          obtain ⟨e, he⟩ := readField_refused hf f.name
            (back.flatMap (',' :: chars ·) ++ '}' :: rest)
          refine ⟨e, ?_⟩
          rw [List.nil_append, List.flatMap_cons, List.cons_append, List.cons_append,
            List.append_assoc, chars_append, readFields_comma_quote, he]
          rfl
  | cons g front ih =>
      cases fuel with
      | zero => exact ⟨_, rfl⟩
      | succ fuel =>
          obtain ⟨e, he⟩ := ih (fun h hh => hfront h (List.mem_cons_of_mem g hh))
            (insert g.name g.value known) fuel
          refine ⟨e, ?_⟩
          rw [List.cons_append, List.flatMap_cons, List.cons_append, List.cons_append,
            List.append_assoc, chars_append, readFields_comma_quote,
            readField_chars (hfront g List.mem_cons_self) (endsNumeral_more _ rest)]
          exact he

theorem readFields_refused {front : List WrittenField}
    (hfront : ∀ f ∈ front, ReadsAs item f.text f.value) {f : WrittenField}
    (hf : Refused item f.text) (back : List WrittenField) (rest : List Char) (fuel : Nat) :
    ∃ e, readFields item fuel true []
      ((((front ++ f :: back).map chars).intersperse [',']).flatten ++ '}' :: rest) =
        .error e := by
  cases fuel with
  | zero => exact ⟨_, rfl⟩
  | succ fuel =>
      cases front with
      | nil =>
          obtain ⟨e, he⟩ := readField_refused hf f.name
            (back.flatMap (',' :: chars ·) ++ '}' :: rest)
          refine ⟨e, ?_⟩
          rw [List.nil_append, joined_cons, List.append_assoc, chars_append, readFields_quote, he]
          rfl
      | cons g front =>
          obtain ⟨e, he⟩ := readFields_more_refused
            (fun h hh => hfront h (List.mem_cons_of_mem g hh)) hf back rest
            (insert g.name g.value []) fuel
          refine ⟨e, ?_⟩
          rw [List.cons_append, joined_cons, List.append_assoc, chars_append, readFields_quote,
            readField_chars (hfront g List.mem_cons_self) (endsNumeral_more _ rest)]
          exact he

/-- An object is refused with one of its fields. -/
theorem refused_object {scale : Scaling} {depth : Nat} (front : List WrittenField)
    (hfront : ∀ f ∈ front, ReadsAs (readValue scale depth) f.text f.value) {f : WrittenField}
    (hf : Refused (readValue scale depth) f.text) (back : List WrittenField) :
    Refused (readValue scale (depth + 1))
      ('{' :: (((front ++ f :: back).map chars).intersperse [',']).flatten ++ ['}']) := by
  intro rest
  obtain ⟨e, he⟩ := readFields_refused hfront hf back rest
    (((((front ++ f :: back).map chars).intersperse [',']).flatten ++ '}' :: rest).length + 1)
  refine ⟨e, ?_⟩
  rw [List.cons_append, List.cons_append, List.append_assoc, List.singleton_append,
    readValue_brace, he]
  rfl

end WrittenField

theorem readWith_of_refused {scale : Scaling} {text : List Char}
    (h : Refused (readValue scale depthLimit) text) :
    ∃ e, readWith scale (String.ofList text) = .error e := by
  obtain ⟨e, he⟩ := h []
  rw [List.append_nil] at he
  refine ⟨e, ?_⟩
  rw [readWith, String.toList_ofList, he]
  rfl

end LineHighlight.Json
