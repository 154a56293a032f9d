import LineHighlight.Number.Literal
import LineHighlight.Proofs.Number.Integers
import Mathlib.Data.List.TakeWhile

/-! The two readers of numerals.
They take the same 32-bit integer from a text unless it names a radix, or the blanks around it
are blanks for one of them only. The digits of an integer they round like the integer itself. -/

namespace LineHighlight

namespace Text

theorem dropWhile_congr_mem {p q : Char → Bool} {cs : List Char} (h : ∀ c ∈ cs, p c = q c) :
    cs.dropWhile p = cs.dropWhile q := by
  induction cs with
  | nil => rfl
  | cons c cs ih =>
      rw [List.dropWhile_cons, List.dropWhile_cons, h c List.mem_cons_self,
        ih fun d hd => h d (List.mem_cons_of_mem c hd)]

theorem trimBy_congr {p q : Char → Bool} {s : String} (h : ∀ c ∈ s.toList, p c = q c) :
    trimBy p s = trimBy q s := by
  have hfront := dropWhile_congr_mem h
  have hback : ∀ c ∈ (s.toList.dropWhile q).reverse, p c = q c := by
    intro c hc
    exact h c ((List.dropWhile_sublist q).subset (List.mem_reverse.mp hc))
  rw [trimBy, trimBy, hfront, dropWhile_congr_mem hback]

/-- The two classes of blanks differ in two characters. -/
theorem isScriptBlank_eq_isBlank {c : Char} (hmark : c.toNat ≠ 0xfeff) (hline : c.toNat ≠ 0x85) :
    isScriptBlank c = isBlank c := by
  rw [isScriptBlank, beq_false_of_ne hmark, bne_iff_ne.mpr hline, Bool.and_true, Bool.false_or]

end Text

namespace Numeral

/-! ## Names that are no numerals -/

theorem toLower_of_lt {c : Char} (h : c.toNat < 65) : c.toLower = c := by
  unfold Char.toLower
  split
  case isTrue hupper => exact absurd hupper.1 (Nat.not_le.mpr h)
  case isFalse => rfl

theorem decimal?_eq_none {c : Char} (hc : 65 ≤ c.toNat) (negative : Bool) (cs : List Char) :
    decimal? negative (c :: cs) = none := by
  have hdigit : c.isDigit = false := by
    simp only [Char.isDigit, Bool.and_eq_false_iff, decide_eq_false_iff_not]
    right
    intro h
    exact absurd (Nat.le_trans hc h) (by decide)
  have hhead : (c :: cs).takeWhile Char.isDigit = [] := by simp [hdigit]
  have hrest : (c :: cs).dropWhile Char.isDigit = c :: cs := by simp [hdigit]
  simp only [decimal?, hhead, hrest]
  split
  case h_1 r heq =>
    obtain rfl : c = '.' := (List.cons.inj heq).1
    exact absurd hc (by decide)
  case h_2 => rfl

/-- The names that the plain reader knows are no decimal numerals. -/
theorem decimal?_of_name {cs : List Char} {name : String}
    (hname : name = "inf" ∨ name = "infinity" ∨ name = "nan")
    (h : String.ofList (cs.map Char.toLower) = name) (negative : Bool) :
    decimal? negative cs = none := by
  have hlower : cs.map Char.toLower = name.toList := by rw [← h, String.toList_ofList]
  obtain ⟨d, ds, hd, hlarge⟩ : ∃ d ds, name.toList = d :: ds ∧ 65 ≤ d.toNat := by
    rcases hname with rfl | rfl | rfl <;> exact ⟨_, _, rfl, by decide⟩
  cases cs with
  | nil => simp [hd] at hlower
  | cons c cs =>
      rw [hd, List.map_cons, List.cons.injEq] at hlower
      apply decimal?_eq_none
      by_contra hsmall
      rw [toLower_of_lt (Nat.lt_of_not_le hsmall)] at hlower
      exact hsmall (hlower.1 ▸ hlarge)

/-! ## The two readers -/

/-- A text that both readers take for the same numeral, or for none. -/
structure ReadsAlike (s : String) : Prop where
  blanks : Text.trimBy Text.isScriptBlank s = Text.trim s
  no_radix : radix? (Text.trim s).toList = none

theorem readsAlike_of_mem {s : String} (hblank : ∀ c ∈ s.toList, c.toNat ≠ 0xfeff ∧ c.toNat ≠ 0x85)
    (hradix : radix? (Text.trim s).toList = none) : ReadsAlike s where
  blanks := Text.trimBy_congr fun c hc =>
    Text.isScriptBlank_eq_isBlank (hblank c hc).1 (hblank c hc).2
  no_radix := hradix

theorem toInt32_getD (x : Option Binary64) :
    (x.getD .nan).toInt32 = (x.getD (Binary64.zero false)).toInt32 := by
  cases x with
  | none => exact (Binary64.toInt32_zero false).symm
  | some x => rfl

/-- Behind the sign, the readers know different names, none of which is an integer. -/
theorem toInt32_unsigned (negative : Bool) (cs : List Char) (name : String)
    (h : String.ofList (cs.map Char.toLower) = name) :
    (if cs = "Infinity".toList then Binary64.infinite negative
      else (decimal? negative cs).getD .nan).toInt32 =
    ((if name = "inf" ∨ name = "infinity" then some (Binary64.infinite negative)
      else if name = "nan" then some .nan
      else decimal? negative cs).getD (Binary64.zero false)).toInt32 := by
  by_cases hname : name = "inf" ∨ name = "infinity" ∨ name = "nan"
  · have hleft : (if cs = "Infinity".toList then Binary64.infinite negative
        else (decimal? negative cs).getD .nan).toInt32 = 0 := by
      rw [decimal?_of_name hname h]
      split <;> rfl
    rw [hleft]
    rcases hname with rfl | rfl | rfl <;> rfl
  · have hinfinity : cs ≠ "Infinity".toList := by
      rintro rfl
      exact hname (.inr (.inl h.symm))
    obtain ⟨hinf, hlong, hnan⟩ : name ≠ "inf" ∧ name ≠ "infinity" ∧ name ≠ "nan" := by
      simpa only [not_or] using hname
    rw [if_neg hinfinity, if_neg (not_or.mpr ⟨hinf, hlong⟩), if_neg hnan]
    exact toInt32_getD _

/-- The readers agree on the 32-bit integer in a text. -/
theorem toInt32_script {s : String} (h : ReadsAlike s) :
    (script s).toInt32 = ((plain? (Text.trim s)).getD (Binary64.zero false)).toInt32 := by
  simp only [script, plain?, h.blanks, h.no_radix]
  generalize (Text.trim s).toList = cs
  split
  case isTrue hempty =>
    obtain rfl := List.isEmpty_iff.mp hempty
    rfl
  case isFalse => exact toInt32_unsigned _ _ _ rfl

/-! ## The digits of an integer -/

theorem isDigit_toDigits (n : Nat) : ∀ c ∈ Nat.toDigits 10 n, c.isDigit = true :=
  fun _ hc => Nat.isDigit_of_mem_toDigits (by decide) (by decide) hc

theorem natOfDigits_toDigits (n : Nat) : natOfDigits (Nat.toDigits 10 n) = n := by
  have hstep : (fun n (c : Char) => n * 10 + (c.toNat - 48)) =
      fun n c => 10 * n + (c.toNat - '0'.toNat) := by
    funext n c
    rw [Nat.mul_comm]
    rfl
  rw [natOfDigits, hstep, ← Nat.ofDigitChars_eq_foldl]
  exact Nat.ofDigitChars_ten_toDigits

theorem ofDecimal_natCast (negative : Bool) (n : Nat) :
    Binary64.ofDecimal negative n 0 = Binary64.round negative n 1 := by
  rw [Binary64.ofDecimal]
  split
  case isTrue hzero => rw [hzero, Binary64.round, if_pos rfl]
  case isFalse =>
    rw [if_neg (by decide), if_neg (by omega), if_pos (by decide)]
    exact congrArg (Binary64.round negative · 1) (Nat.mul_one n)

theorem decimal?_toDigits (negative : Bool) (n : Nat) :
    decimal? negative (Nat.toDigits 10 n) = some (Binary64.round negative n 1) := by
  have hwhole : (Nat.toDigits 10 n).takeWhile Char.isDigit = Nat.toDigits 10 n :=
    List.takeWhile_eq_self_iff.mpr (isDigit_toDigits n)
  have hrest : (Nat.toDigits 10 n).dropWhile Char.isDigit = [] :=
    List.dropWhile_eq_nil_iff.mpr (isDigit_toDigits n)
  have hsome : (Nat.toDigits 10 n).isEmpty = false := by simp
  simp only [decimal?, hwhole, hrest, hsome, List.append_nil, natOfDigits_toDigits]
  rw [← ofDecimal_natCast]
  rfl

theorem sign_toDigits (n : Nat) : sign (Nat.toDigits 10 n) = (false, Nat.toDigits 10 n) := by
  cases h : Nat.toDigits 10 n with
  | nil => rfl
  | cons c ds =>
      have hc := isDigit_toDigits n c (h ▸ List.mem_cons_self)
      unfold sign
      split
      case h_1 heq =>
        obtain rfl := (List.cons.inj heq).1
        exact absurd hc (by decide)
      case h_2 heq =>
        obtain rfl := (List.cons.inj heq).1
        exact absurd hc (by decide)
      case h_3 => rfl

/-- An integer is rounded when its digits are read just as when it is a number already. -/
theorem plain?_toString (n : Int) : plain? (toString n) = some (Binary64.ofInt n) := by
  have hsign : sign (toString n).toList = (decide (n < 0), Nat.toDigits 10 n.natAbs) := by
    rw [NumberFormat.toString_eq_sign_append, String.toList_append, String.toList_ofList]
    by_cases hn : n < 0
    · rw [decide_eq_true hn]
      rfl
    · rw [decide_eq_false hn]
      exact sign_toDigits n.natAbs
  have hdecimal := decimal?_toDigits (decide (n < 0)) n.natAbs
  have hname : ∀ name, name = "inf" ∨ name = "infinity" ∨ name = "nan" →
      String.ofList ((Nat.toDigits 10 n.natAbs).map Char.toLower) ≠ name := by
    intro name hname h
    rw [decimal?_of_name hname h] at hdecimal
    cases hdecimal
  simp only [plain?, hsign]
  rw [if_neg, if_neg, hdecimal, Binary64.ofInt]
  · exact hname _ (by decide)
  · rw [not_or]
    exact ⟨hname _ (by decide), hname _ (by decide)⟩

end Numeral

end LineHighlight
