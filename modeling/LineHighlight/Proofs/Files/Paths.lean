import LineHighlight.Files.Path
import LineHighlight.Files.Tree
import LineHighlight.Proofs.Text.Lines

/-! Paths and their parts.
The parts of a joined path are those of the directory and then those of the file, unless the
file is absolute. -/

namespace LineHighlight.Files

/-- The names between the separators of a path. -/
def pieces (cs : List Char) : List String :=
  ((Text.cutAt '/' cs).map String.ofList).filter (· ≠ "")

theorem parts_eq (path : String) :
    parts path = pieces path.toList ++ if path.toList.getLast? = some '/' then ["."] else [] := by
  by_cases h : path.toList.getLast? = some '/' <;> simp [parts, pieces, h]

@[simp] theorem pieces_nil : pieces [] = [] := by
  simp [pieces, Text.cutAt]

/-- A separator lies between the names before it and those behind it. -/
theorem pieces_append_separator (a b : List Char) :
    pieces (a ++ '/' :: b) = pieces a ++ pieces b := by
  simp only [pieces, Text.cutAt_eq_splitOn, List.splitOn_append_cons_self, List.map_append,
    List.filter_append]

theorem pieces_of_notMem {cs : List Char} (hcs : cs ≠ []) (h : '/' ∉ cs) :
    pieces cs = [String.ofList cs] := by
  rw [pieces, Text.cutAt_eq_splitOn, List.splitOn_eq_singleton h]
  simp [hcs]

/-- A name is the only part of its path. -/
theorem parts_of_notMem {name : String} (hname : name ≠ "") (h : '/' ∉ name.toList) :
    parts name = [name] := by
  have hlast : name.toList.getLast? ≠ some '/' := fun hlast => h (List.mem_of_getLast? hlast)
  have hnil : name.toList ≠ [] := by simpa using hname
  simp [parts_eq, hlast, pieces_of_notMem hnil h]

/-! ## Joined paths -/

theorem isAbsolute_iff (path : String) : isAbsolute path = true ↔ path.toList.head? = some '/' := by
  simp [isAbsolute]

theorem join_of_isAbsolute {file : String} (h : isAbsolute file = true) (directory : String) :
    join directory file = file := by
  simp [join, h]

/-- The ways to put a file behind a directory. -/
theorem join_cases (directory : String) {file : String} (h : isAbsolute file = false) :
    (directory = "" ∧ join directory file = file) ∨
      (∃ above, directory.toList = above ++ ['/'] ∧
        (join directory file).toList = above ++ '/' :: file.toList) ∨
      (directory ≠ "" ∧ directory.toList.getLast? ≠ some '/' ∧
        (join directory file).toList = directory.toList ++ '/' :: file.toList) := by
  by_cases hempty : directory = ""
  · exact .inl ⟨hempty, by simp [join, hempty]⟩
  · by_cases hends : directory.toList.getLast? = some '/'
    · obtain ⟨above, habove⟩ := List.getLast?_eq_some_iff.mp hends
      refine .inr (.inl ⟨above, habove, ?_⟩)
      simp [join, h, hempty, endsInSeparator, habove]
    · refine .inr (.inr ⟨hempty, hends, ?_⟩)
      simp [join, h, hempty, endsInSeparator, hends]

/-- What stands before the file does not depend on it. -/
theorem join_eq_append (directory : String) {file : String} (h : isAbsolute file = false) :
    join directory file = join directory "" ++ file := by
  have hnone : isAbsolute "" = false := rfl
  by_cases hempty : directory = ""
  · simp [join, hempty]
  · by_cases hends : endsInSeparator directory <;>
      simp [join, h, hnone, hempty, hends]

theorem parts_of_toList {path file : String} (hfile : file ≠ "") {above : List Char}
    (h : path.toList = above ++ '/' :: file.toList) :
    parts path = pieces above ++ parts file := by
  obtain ⟨c, cs, hcs⟩ := List.exists_cons_of_ne_nil (mt String.toList_eq_nil_iff.mp hfile)
  rw [parts_eq, parts_eq, h, pieces_append_separator, hcs, List.append_assoc]
  simp [List.getLast?_append, List.getLast?_cons_cons]

theorem parts_join (directory : String) {file : String} (hfile : file ≠ "")
    (h : isAbsolute file = false) :
    parts (join directory file) = pieces directory.toList ++ parts file := by
  obtain ⟨rfl, hjoin⟩ | ⟨above, habove, hjoin⟩ | ⟨-, -, hjoin⟩ := join_cases directory h
  · simp [hjoin]
  · rw [parts_of_toList hfile hjoin, habove, pieces_append_separator]
    simp
  · exact parts_of_toList hfile hjoin

/-- A joined path starts where its directory starts. -/
theorem head?_join {directory : String} (hdirectory : directory ≠ "") {file : String}
    (h : isAbsolute file = false) :
    (join directory file).toList.head? = directory.toList.head? := by
  have hnil : directory.toList ≠ [] := by simpa using hdirectory
  obtain ⟨hempty, -⟩ | ⟨above, habove, hjoin⟩ | ⟨-, -, hjoin⟩ := join_cases directory h
  · exact absurd hempty hdirectory
  · rw [hjoin, habove]
    cases above <;> rfl
  · rw [hjoin]
    cases hcs : directory.toList with
    | nil => exact absurd hcs hnil
    | cons c cs => rfl

end LineHighlight.Files
