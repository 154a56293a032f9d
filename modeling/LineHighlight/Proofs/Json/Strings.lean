import LineHighlight.Json.Printer
import LineHighlight.Json.Reader
import Mathlib.Algebra.Ring.Nat

/-! Quoted strings and their reading.
What is written between the quotes of a string reads back as that string and nothing more, so no
character in it can end it early. -/

namespace LineHighlight.Json

/-! ## Escapes -/

theorem hexDigit?_digitChar : ∀ n < 16, hexDigit? n.digitChar = some n := by
  decide

theorem toDigits_of_le {n : Nat} (h : 16 ≤ n) :
    Nat.toDigits 16 n = Nat.toDigits 16 (n / 16) ++ [(n % 16).digitChar] :=
  Nat.toDigits_of_base_le (by decide) h

/-- The digits of a number of 16 bits, with zeros in front. -/
theorem hex4_eq {n : Nat} (hn : n < 0x10000) :
    hex4 n = [(n / 16 / 16 / 16).digitChar, (n / 16 / 16 % 16).digitChar,
      (n / 16 % 16).digitChar, (n % 16).digitChar] := by
  have hlast : ∀ m < 16, Nat.toDigits 16 m = [m.digitChar] := fun m hm =>
    Nat.toDigits_of_lt_base hm
  rw [hex4, NumberFormat.padLeft, Text.hexDigits]
  by_cases h1 : n < 16
  · have hn1 : n / 16 = 0 := by omega
    rw [hlast n h1, hn1, Nat.mod_eq_of_lt h1]
    rfl
  rw [toDigits_of_le (Nat.le_of_not_lt h1)]
  by_cases h2 : n / 16 < 16
  · have hn2 : n / 16 / 16 = 0 := by omega
    rw [hlast _ h2, hn2, Nat.mod_eq_of_lt h2]
    rfl
  rw [toDigits_of_le (Nat.le_of_not_lt h2)]
  by_cases h3 : n / 16 / 16 < 16
  · have hn3 : n / 16 / 16 / 16 = 0 := by omega
    rw [hlast _ h3, hn3, Nat.mod_eq_of_lt h3]
    rfl
  rw [toDigits_of_le (Nat.le_of_not_lt h3), hlast _ (by omega)]
  rfl

theorem hexEscape_hex4 {n : Nat} (hn : n < 0x10000) (rest : List Char) :
    hexEscape (hex4 n ++ rest) = .ok (n, rest) := by
  have hvalue : ((n / 16 / 16 / 16 * 16 + n / 16 / 16 % 16) * 16 + n / 16 % 16) * 16 + n % 16 =
      n := by omega
  simp only [hex4_eq hn, List.cons_append, List.nil_append, hexEscape,
    hexDigit?_digitChar (n / 16 / 16 / 16) (by omega),
    hexDigit?_digitChar (n / 16 / 16 % 16) (by omega),
    hexDigit?_digitChar (n / 16 % 16) (by omega), hexDigit?_digitChar (n % 16) (by omega), hvalue]

/-- The escape of a control character gives that character back. -/
theorem unicodeEscape_hex4 {n : Nat} (hn : n < 0x20) (rest : List Char) :
    unicodeEscape (hex4 n ++ rest) = .ok (Char.ofNat n, rest) := by
  have hlow : ¬ (0xdc00 ≤ n ∧ n ≤ 0xdfff) := by omega
  have hhigh : ¬ (0xd800 ≤ n ∧ n ≤ 0xdbff) := by omega
  rw [unicodeEscape, hexEscape_hex4 (by omega)]
  simp only [bind, Except.bind, if_neg hlow, if_neg hhigh]

/-! ## Strings -/

theorem stringRest_plain {c : Char} (hquote : c ≠ '"') (hslash : c ≠ '\\')
    (hcontrol : 0x20 ≤ c.toNat) (fuel : Nat) (acc rest : List Char) :
    stringRest (fuel + 1) acc (c :: rest) = stringRest fuel (c :: acc) rest := by
  simp [stringRest, Nat.not_lt.mpr hcontrol]

/-- One step of the reader takes one written character. -/
theorem stringRest_escapeChar (fuel : Nat) (acc : List Char) (c : Char) (rest : List Char) :
    stringRest (fuel + 1) acc (escapeChar c ++ rest) = stringRest fuel (c :: acc) rest := by
  unfold escapeChar
  -- the seven characters that have a short escape
  iterate 7 (split; · subst_vars; rfl)
  split
  case isTrue hcontrol =>
    have hescape : escape ('u' :: (hex4 c.toNat ++ rest)) = .ok (c, rest) := by
      rw [escape, unicodeEscape_hex4 hcontrol, Char.ofNat_toNat]
    simp only [List.cons_append, stringRest, hescape]
  case isFalse hquote hslash _ _ _ _ _ hcontrol =>
    exact stringRest_plain hquote hslash (Nat.le_of_not_lt hcontrol) fuel acc rest

theorem stringRest_escaped (cs rest acc : List Char) :
    ∀ fuel, cs.length < fuel →
      stringRest fuel acc (cs.flatMap escapeChar ++ '"' :: rest) =
        .ok (String.ofList (acc.reverse ++ cs), rest) := by
  induction cs generalizing acc with
  | nil =>
      intro fuel hfuel
      obtain ⟨fuel, rfl⟩ := Nat.exists_eq_succ_of_ne_zero (Nat.ne_of_gt hfuel)
      simp [stringRest]
  | cons c cs ih =>
      intro fuel hfuel
      obtain ⟨fuel, rfl⟩ := Nat.exists_eq_succ_of_ne_zero (Nat.ne_of_gt (Nat.zero_lt_of_lt hfuel))
      rw [List.flatMap_cons, List.append_assoc, stringRest_escapeChar,
        ih (c :: acc) fuel (Nat.lt_of_succ_lt_succ hfuel)]
      simp

theorem escapeChar_ne_nil (c : Char) : escapeChar c ≠ [] := by
  unfold escapeChar
  repeat' split
  all_goals simp

theorem length_le_length_escaped (cs : List Char) : cs.length ≤ (cs.flatMap escapeChar).length := by
  induction cs with
  | nil => simp
  | cons c cs ih =>
      have hc : 0 < (escapeChar c).length := List.length_pos_iff.mpr (escapeChar_ne_nil c)
      rw [List.flatMap_cons, List.length_append, List.length_cons]
      omega

theorem le_toNat_digitChar : ∀ n < 16, 0x20 ≤ n.digitChar.toNat := by
  decide

/-- No control character stands in a quoted string. -/
theorem le_toNat_of_mem_quote {s : String} {c : Char} (h : c ∈ quote s) : 0x20 ≤ c.toNat := by
  rw [quote, List.cons_append, List.mem_cons, List.mem_append, List.mem_flatMap,
    List.mem_singleton] at h
  rcases h with rfl | ⟨d, -, hd⟩ | rfl
  · decide
  · unfold escapeChar at hd
    -- the seven characters that have a short escape
    iterate 7
      split at hd
      · simp only [List.mem_cons, List.not_mem_nil, or_false] at hd
        rcases hd with rfl | rfl <;> decide
    split at hd
    case isTrue hcontrol =>
      rw [hex4_eq (Nat.lt_trans hcontrol (by decide))] at hd
      simp only [List.mem_cons, List.not_mem_nil, or_false] at hd
      rcases hd with rfl | rfl | rfl | rfl | rfl | rfl
      · decide
      · decide
      all_goals exact le_toNat_digitChar _ (by omega)
    case isFalse hcontrol =>
      rw [List.mem_singleton] at hd
      rw [hd]
      exact Nat.le_of_not_lt hcontrol
  · decide

/-- A quoted string reads back as itself, whatever comes after it. -/
theorem readString_escaped (s : String) (rest : List Char) :
    readString (s.toList.flatMap escapeChar ++ '"' :: rest) = .ok (s, rest) := by
  have hlength := length_le_length_escaped s.toList
  rw [readString, stringRest_escaped s.toList rest []]
  · simp
  · simp only [List.length_append, List.length_cons]
    omega

end LineHighlight.Json
