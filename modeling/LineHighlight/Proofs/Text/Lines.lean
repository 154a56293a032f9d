import LineHighlight.Text.Lines

/-! Cutting a text into lines and joining them again.
The lines of a text are the only line-feed-free texts that a line feed joins back to it. -/

namespace LineHighlight.Text

theorem cutAt_eq_splitOn {α : Type} [BEq α] (sep : α) (xs : List α) :
    cutAt sep xs = xs.splitOn sep := by
  induction xs with
  | nil => rfl
  | cons x rest ih =>
      rw [List.splitOn_cons_eq_if_modifyHead, ← ih, cutAt]
      split
      · rfl
      · cases h : cutAt sep rest with
        | nil => exact absurd h (cutAt_ne_nil sep rest)
        | cons line others => rfl

theorem lines_eq_splitOn (s : String) :
    lines s = (s.toList.splitOn '\n').map String.ofList := by
  rw [lines, cutAt_eq_splitOn]

/-! ## Lines and joins undo each other -/

/-- A line feed between the lines gives the text back. -/
@[simp] theorem intercalate_lines (s : String) : "\n".intercalate (lines s) = s := by
  apply String.toList_inj.mp
  rw [lines_eq_splitOn, String.toList_intercalate, List.map_map]
  simp [Function.comp_def]

theorem lines_intercalate {ls : List String} (hne : ls ≠ [])
    (hls : ∀ l ∈ ls, '\n' ∉ l.toList) : lines ("\n".intercalate ls) = ls := by
  have hcut : (['\n'].intercalate (ls.map String.toList)).splitOn '\n' =
      ls.map String.toList := by
    apply List.splitOn_intercalate
    · intro cs hcs
      obtain ⟨l, hl, rfl⟩ := List.mem_map.mp hcs
      exact hls l hl
    · simpa using hne
  rw [lines_eq_splitOn, String.toList_intercalate]
  simpa [Function.comp_def] using congrArg (List.map String.ofList) hcut

/-- A piece of a cut list does not hold the separator. -/
theorem not_mem_of_mem_splitOn {α : Type} [BEq α] [LawfulBEq α] (sep : α) :
    ∀ (xs : List α), ∀ piece ∈ xs.splitOn sep, sep ∉ piece := by
  intro xs
  induction xs with
  | nil => simp
  | cons x rest ih =>
      intro piece hpiece
      rw [List.splitOn_cons_eq_if_modifyHead] at hpiece
      split at hpiece
      · rcases List.mem_cons.mp hpiece with rfl | hpiece
        · simp
        · exact ih piece hpiece
      · rename_i hx
        obtain ⟨first, others, hcut⟩ := List.exists_cons_of_ne_nil (List.splitOn_ne_nil sep rest)
        rw [hcut, List.modifyHead_cons] at hpiece
        rw [hcut] at ih
        rcases List.mem_cons.mp hpiece with rfl | hpiece
        · have hfirst := ih first (by simp)
          simp only [beq_iff_eq] at hx
          simp [hfirst, Ne.symm hx]
        · exact ih piece (by simp [hpiece])

theorem not_mem_of_mem_lines {s l : String} (h : l ∈ lines s) : '\n' ∉ l.toList := by
  rw [lines_eq_splitOn] at h
  obtain ⟨cs, hcs, rfl⟩ := List.mem_map.mp h
  simpa using not_mem_of_mem_splitOn '\n' s.toList cs hcs

/-- What the lines of a text are, without the cutting. -/
theorem lines_eq_iff (s : String) (ls : List String) :
    lines s = ls ↔ ls ≠ [] ∧ "\n".intercalate ls = s ∧ ∀ l ∈ ls, '\n' ∉ l.toList := by
  constructor
  · rintro rfl
    exact ⟨lines_ne_nil s, intercalate_lines s, fun _ => not_mem_of_mem_lines⟩
  · rintro ⟨hne, rfl, hls⟩
    exact lines_intercalate hne hls

/-! ## Parts of a text -/

/-- A line feed between two texts puts the lines of the second behind those of the first. -/
theorem lines_newline (a b : String) : lines (a ++ "\n" ++ b) = lines a ++ lines b := by
  have hsplit : (a ++ "\n" ++ b).toList = a.toList ++ '\n' :: b.toList := by simp
  rw [lines_eq_splitOn, hsplit, List.splitOn_append_cons_self, List.map_append,
    ← lines_eq_splitOn, ← lines_eq_splitOn]

/-- The lines of the first few lines are those lines. -/
theorem lines_intercalate_take (s : String) {k : Nat} (hk : 0 < k) :
    lines ("\n".intercalate ((lines s).take k)) = (lines s).take k := by
  apply lines_intercalate
  · have hne := lines_ne_nil s
    simp only [ne_eq, List.take_eq_nil_iff, not_or]
    exact ⟨by omega, hne⟩
  · intro l hl
    exact not_mem_of_mem_lines (List.mem_of_mem_take hl)

theorem length_splitOn {α : Type} [BEq α] [LawfulBEq α] (sep : α) (xs : List α) :
    (xs.splitOn sep).length = xs.count sep + 1 := by
  induction xs with
  | nil => rfl
  | cons x rest ih =>
      rw [List.splitOn_cons_eq_if_modifyHead, List.count_cons]
      split <;> simp [ih]

/-- There is one line more than there are line feeds. -/
theorem length_lines (s : String) : (lines s).length = s.toList.count '\n' + 1 := by
  rw [lines_eq_splitOn, List.length_map, length_splitOn]

end LineHighlight.Text
