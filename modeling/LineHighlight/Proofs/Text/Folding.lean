import LineHighlight.Text.Blank
import Mathlib.Data.List.TakeWhile

/-! Texts with blanks around them, in any ASCII case.
Trimming splits a text into blanks, a middle part and blanks. To fold the case leaves every
blank a blank, so it makes no difference which of the two comes first. -/

namespace LineHighlight.Text

/-- A text without the blanks around it and without ASCII capitals. -/
def folded (s : String) : String :=
  lowerAscii (trim s)

/-- A text that is a name with blanks around it, in whatever ASCII case. -/
def Spells (name s : String) : Prop :=
  ∃ front middle back, s.toList = front ++ middle ++ back ∧
    (∀ c ∈ front, isBlank c = true) ∧ (∀ c ∈ back, isBlank c = true) ∧
    middle.map Char.toLower = name.toList

/-! ## Trimming -/

theorem toList_trim (s : String) :
    (trim s).toList = ((s.toList.dropWhile isBlank).reverse.dropWhile isBlank).reverse :=
  String.toList_ofList

/-- Behind the blanks in front stand what trimming leaves and the blanks at the end. -/
theorem trim_append_takeWhile (s : String) :
    (trim s).toList ++ ((s.toList.dropWhile isBlank).reverse.takeWhile isBlank).reverse =
      s.toList.dropWhile isBlank := by
  rw [toList_trim, ← List.reverse_append, List.takeWhile_append_dropWhile, List.reverse_reverse]

/-- What trimming takes away. -/
theorem exists_blanks_around (s : String) :
    ∃ front back, s.toList = front ++ (trim s).toList ++ back ∧
      (∀ c ∈ front, isBlank c = true) ∧ ∀ c ∈ back, isBlank c = true := by
  refine ⟨s.toList.takeWhile isBlank,
    ((s.toList.dropWhile isBlank).reverse.takeWhile isBlank).reverse, ?_, ?_, ?_⟩
  · rw [List.append_assoc, trim_append_takeWhile, List.takeWhile_append_dropWhile]
  · intro c hc
    exact List.mem_takeWhile_imp hc
  · intro c hc
    exact List.mem_takeWhile_imp (List.mem_reverse.mp hc)

theorem head?_dropWhile (p : Char → Bool) (cs : List Char) :
    ∀ c ∈ (cs.dropWhile p).head?, p c = false := by
  intro c hc
  have hhead := List.head?_dropWhile_not p cs
  rw [Option.mem_def.mp hc] at hhead
  simpa using hhead

/-- Trimming leaves no blanks at the ends. -/
theorem trim_ends (s : String) :
    (∀ c ∈ (trim s).toList.head?, isBlank c = false) ∧
      ∀ c ∈ (trim s).toList.getLast?, isBlank c = false := by
  constructor
  · intro c hc
    apply head?_dropWhile isBlank s.toList
    rw [← trim_append_takeWhile, List.head?_append, Option.mem_def.mp hc]
    rfl
  · rw [toList_trim, List.getLast?_reverse]
    exact head?_dropWhile _ _

theorem dropWhile_eq_self_of_head? {p : Char → Bool} {cs : List Char}
    (h : ∀ c ∈ cs.head?, p c = false) : cs.dropWhile p = cs := by
  cases cs with
  | nil => rfl
  | cons c cs => simp [h c rfl]

theorem toList_trim_of_ends {s : String} {front middle back : List Char}
    (hs : s.toList = front ++ middle ++ back) (hfront : ∀ c ∈ front, isBlank c = true)
    (hback : ∀ c ∈ back, isBlank c = true) (hhead : ∀ c ∈ middle.head?, isBlank c = false)
    (hlast : ∀ c ∈ middle.getLast?, isBlank c = false) : (trim s).toList = middle := by
  have hends : ∀ c ∈ back.reverse, isBlank c = true := by
    intro c hc
    exact hback c (List.mem_reverse.mp hc)
  rw [toList_trim, hs, List.append_assoc, List.dropWhile_append_of_pos hfront]
  cases middle with
  | nil =>
      have hnone : back.dropWhile isBlank = [] := List.dropWhile_eq_nil_iff.mpr hback
      simp [hnone]
  | cons c cs =>
      have hfirst : (c :: cs ++ back).dropWhile isBlank = c :: cs ++ back :=
        dropWhile_eq_self_of_head? hhead
      have hreversed : (c :: cs).reverse.dropWhile isBlank = (c :: cs).reverse := by
        apply dropWhile_eq_self_of_head?
        rw [List.head?_reverse]
        exact hlast
      rw [hfirst, List.reverse_append, List.dropWhile_append_of_pos hends, hreversed,
        List.reverse_reverse]

theorem toList_trim_of_blanks {s : String} {front middle back : List Char}
    (hs : s.toList = front ++ middle ++ back) (hfront : ∀ c ∈ front, isBlank c = true)
    (hback : ∀ c ∈ back, isBlank c = true) (hmiddle : ∀ c ∈ middle, isBlank c = false) :
    (trim s).toList = middle := by
  apply toList_trim_of_ends hs hfront hback
  · exact fun c hc => hmiddle c (List.mem_of_mem_head? hc)
  · exact fun c hc => hmiddle c (List.mem_of_getLast? hc)

/-- A text without blanks at its ends that another one is when blanks are put around it. -/
def StripsTo (s t : String) : Prop :=
  ∃ front back, s.toList = front ++ t.toList ++ back ∧
    (∀ c ∈ front, isBlank c = true) ∧ (∀ c ∈ back, isBlank c = true) ∧
    (∀ c ∈ t.toList.head?, isBlank c = false) ∧ ∀ c ∈ t.toList.getLast?, isBlank c = false

theorem stripsTo_iff {s t : String} : StripsTo s t ↔ trim s = t := by
  constructor
  · rintro ⟨front, back, hs, hfront, hback, hhead, hlast⟩
    exact String.toList_inj.mp (toList_trim_of_ends hs hfront hback hhead hlast)
  · rintro rfl
    obtain ⟨front, back, hs, hfront, hback⟩ := exists_blanks_around s
    exact ⟨front, back, hs, hfront, hback, trim_ends s⟩

theorem trim_eq_empty_iff (s : String) : trim s = "" ↔ isBlankText s = true := by
  rw [isBlankText, List.all_eq_true]
  constructor
  · intro h
    obtain ⟨front, back, hs, hfront, hback⟩ := exists_blanks_around s
    rw [h, String.toList_empty, List.append_nil] at hs
    intro c hc
    rw [hs] at hc
    rcases List.mem_append.mp hc with hc | hc
    · exact hfront c hc
    · exact hback c hc
  · intro h
    apply String.toList_inj.mp
    have hsplit : s.toList = s.toList ++ [] ++ [] := by simp
    exact toList_trim_of_blanks hsplit h nofun nofun

theorem ne_empty_of_trim {s : String} (h : trim s ≠ "") : s ≠ "" := by
  rintro rfl
  exact h rfl

/-! ## Folding the case -/

theorem isBlank_of_letter {c : Char} (hlow : 65 ≤ c.toNat) (hhigh : c.toNat ≤ 122) :
    isBlank c = false := by
  simp only [isBlank, Bool.or_eq_false_iff, Bool.and_eq_false_iff, beq_eq_false_iff_ne,
    decide_eq_false_iff_not]
  omega

theorem isBlank_toLower (c : Char) : isBlank c.toLower = isBlank c := by
  by_cases hupper : c.val ≥ 'A'.val ∧ c.val ≤ 'Z'.val
  · have hlow : 65 ≤ c.toNat := hupper.1
    have hhigh : c.toNat ≤ 90 := hupper.2
    have hlower : c.toLower.toNat = c.toNat + 32 := by
      unfold Char.toLower
      rw [dif_pos hupper]
      have hadd : (c.val + ('a'.val - 'A'.val)).toNat = (c.toNat + 32) % 2 ^ 32 :=
        UInt32.toNat_add c.val ('a'.val - 'A'.val)
      have hsmall : (c.toNat + 32) % 2 ^ 32 = c.toNat + 32 := by omega
      exact hadd.trans hsmall
    rw [isBlank_of_letter hlow (by omega), isBlank_of_letter (by omega) (by omega)]
  · unfold Char.toLower
    rw [dif_neg hupper]

theorem toList_folded (s : String) : (folded s).toList = (trim s).toList.map Char.toLower :=
  String.toList_map

/-- A name without blanks is what a text folds to iff the text spells it. -/
theorem folded_eq_iff_spells {name : String} (hname : ∀ c ∈ name.toList, isBlank c = false)
    (s : String) : folded s = name ↔ Spells name s := by
  constructor
  · rintro rfl
    obtain ⟨front, back, hs, hfront, hback⟩ := exists_blanks_around s
    exact ⟨front, (trim s).toList, back, hs, hfront, hback, (toList_folded s).symm⟩
  · rintro ⟨front, middle, back, hs, hfront, hback, hlower⟩
    have hmiddle : ∀ c ∈ middle, isBlank c = false := by
      intro c hc
      rw [← isBlank_toLower]
      exact hname _ (hlower ▸ List.mem_map_of_mem hc)
    apply String.toList_inj.mp
    rw [toList_folded, toList_trim_of_blanks hs hfront hback hmiddle, hlower]

end LineHighlight.Text
