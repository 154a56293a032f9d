import LineHighlight.Proofs.Files.Walks

/-! Trees after files have been written.
Writing a file makes the directories above it where there are none, and leaves all else as it
was. -/

namespace LineHighlight.Files.Tree

variable {t : Tree} {place q : Place} {e : Entry}

theorem entry?_put (hplace : place ≠ []) (q : Place) (e : Entry) :
    Tree.entry? (t.put place e) q = if q = place then some e else t.entry? q := by
  by_cases hnil : q = []
  · simp [hnil, Ne.symm hplace]
  · by_cases hsame : q = place
    · subst hsame
      simp [Tree.entry?, put, hnil]
    · have hhead : (place == q) = false := by simpa using Ne.symm hsame
      have hothers : (fun p : Place × Entry => decide (p.1 != place ∧ p.1 == q)) =
          fun p => p.1 == q := by
        funext p
        by_cases hp : p.1 = q <;> simp [hp, hsame]
      simp only [Tree.entry?, put, hnil, hsame, if_false, List.find?_cons, hhead, List.find?_filter,
        hothers]

/-! ## Directories above a place -/

/-- Makes the directory of the first names of a place if nothing is there. -/
def makeAbove (place : Place) (t : Tree) (n : Nat) : Tree :=
  let here := place.take (n + 1)
  if (t.entry? here).isSome then t else t.put here .directory

theorem makeDirectory_eq (t : Tree) (place : Place) :
    t.makeDirectory place = (List.range place.length).foldl (makeAbove place) t := rfl

/-- A directory is made where nothing was. -/
theorem makeAbove_cases (place : Place) (t : Tree) (n : Nat) :
    makeAbove place t n = t ∨
      (t.entry? (place.take (n + 1)) = none ∧
        makeAbove place t n = t.put (place.take (n + 1)) .directory) := by
  cases h : t.entry? (place.take (n + 1)) with
  | some e => exact .inl (by simp [makeAbove, h])
  | none => exact .inr ⟨rfl, by simp [makeAbove, h]⟩

theorem entry?_makeAbove (h : (t.entry? q).isSome ∨ ¬ q <+: place) (n : Nat) :
    Tree.entry? (makeAbove place t n) q = t.entry? q := by
  obtain hsame | ⟨hnone, hput⟩ := makeAbove_cases place t n
  · rw [hsame]
  · have hne : place.take (n + 1) ≠ [] := by
      intro hnil
      simp [hnil] at hnone
    have hq : q ≠ place.take (n + 1) := by
      rintro rfl
      obtain hsome | hprefix := h
      · simp [hnone] at hsome
      · exact hprefix (List.take_prefix _ _)
    rw [hput, entry?_put hne, if_neg hq]

/-- Making a directory keeps what is there, and makes nothing but directories on the way. -/
theorem entry?_makeDirectory (h : (t.entry? q).isSome ∨ ¬ q <+: place) :
    Tree.entry? (t.makeDirectory place) q = t.entry? q := by
  rw [makeDirectory_eq]
  induction List.range place.length generalizing t with
  | nil => rfl
  | cons n rest ih =>
      have hstep := entry?_makeAbove h n
      rw [List.foldl_cons, ih (by rwa [hstep]), hstep]

/-! ## Files -/

variable {name : String}

/-- A file that is not written in the place of a directory leaves all that is there. -/
theorem keeps_writeFile (hplace : place ≠ []) (h : t.entry? place ≠ some .directory)
    (bytes : List UInt8) : t.Keeps (t.writeFile place bytes) where
  directory := by
    intro q hq
    have hne : q ≠ place := by
      rintro rfl
      exact h hq
    rw [writeFile, entry?_put hplace, if_neg hne, entry?_makeDirectory (.inl (by simp [hq])), hq]
  isSome := by
    intro q hq
    rw [writeFile, entry?_put hplace, entry?_makeDirectory (.inl hq)]
    split
    · rfl
    · exact hq

/-- Writing a file leaves all that is not on the way to it. -/
theorem entry?_writeFile_of_not_prefix (hplace : place ≠ []) (h : ¬ q <+: place) (t : Tree)
    (bytes : List UInt8) : Tree.entry? (t.writeFile place bytes) q = t.entry? q := by
  have hne : q ≠ place := by
    rintro rfl
    exact h List.prefix_rfl
  have habove : ¬ q <+: place.dropLast := fun hq => h (hq.trans (List.dropLast_prefix place))
  rw [writeFile, entry?_put hplace, if_neg hne, entry?_makeDirectory (.inr habove)]

/-- Of the names in a directory, writing a file changes only what its own stands for. -/
theorem entry?_writeFile (t : Tree) (place : Place) (name other : String) (bytes : List UInt8) :
    Tree.entry? (t.writeFile (place ++ [name]) bytes) (place ++ [other]) =
      if other = name then some (.file bytes) else t.entry? (place ++ [other]) := by
  have hbelow : ¬ place ++ [other] <+: place := by
    intro h
    have hlength := h.length_le
    rw [List.length_append, List.length_singleton] at hlength
    omega
  rw [writeFile, entry?_put (by simp), List.dropLast_concat,
    entry?_makeDirectory (.inr hbelow)]
  simp

end LineHighlight.Files.Tree
