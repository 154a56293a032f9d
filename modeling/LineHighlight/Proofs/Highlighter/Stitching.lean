import LineHighlight.Highlighter.Request
import Mathlib.Algebra.Ring.Nat

/-! How the outcomes of lines become the result of a request.
The pieces of the lines are joined in their order, the relevance is a capped sum, and the
lines that were kept leave no trace in either flag. -/

namespace LineHighlight

namespace HighlightResult

/-- What stands for a line in the value of a result. -/
def piece (line : String) : Except Error EngineResult → String
  | .ok r => r.value ++ "\n "
  | .error _ => line ++ "\n"

/-- The outcomes that came out well. -/
def marked (outcomes : List (Except Error EngineResult)) : List EngineResult :=
  outcomes.filterMap Except.toOption

/-- The result of lines with their outcomes. -/
def stitched (lines : List String) (outcomes : List (Except Error EngineResult)) :
    HighlightResult where
  value := String.join (List.zipWith piece lines outcomes)
  illegal := (marked outcomes).any EngineResult.illegal
  language := "mixed"
  relevance := min (2 ^ 32 - 1) ((marked outcomes).map EngineResult.relevance).sum

@[simp] theorem marked_nil : marked [] = [] := rfl

@[simp] theorem marked_ok (r : EngineResult) (outcomes : List (Except Error EngineResult)) :
    marked (.ok r :: outcomes) = r :: marked outcomes := rfl

@[simp] theorem marked_error (e : Error) (outcomes : List (Except Error EngineResult)) :
    marked (.error e :: outcomes) = marked outcomes := rfl

theorem mem_marked {outcomes : List (Except Error EngineResult)} {r : EngineResult} :
    r ∈ marked outcomes ↔ .ok r ∈ outcomes := by
  induction outcomes with
  | nil => simp
  | cons outcome outcomes ih => cases outcome <;> simp [ih]

theorem marked_append (xs ys : List (Except Error EngineResult)) :
    marked (xs ++ ys) = marked xs ++ marked ys :=
  List.filterMap_append

/-! ## Lines that were all kept -/

theorem marked_of_errors {outcomes : List (Except Error EngineResult)}
    (h : ∀ outcome ∈ outcomes, ∃ e, outcome = .error e) : marked outcomes = [] := by
  rw [List.eq_nil_iff_forall_not_mem]
  intro r hr
  obtain ⟨e, he⟩ := h _ (mem_marked.mp hr)
  cases he

theorem pieces_of_errors {lines : List String} {outcomes : List (Except Error EngineResult)}
    (hlength : outcomes.length = lines.length)
    (h : ∀ outcome ∈ outcomes, ∃ e, outcome = .error e) :
    List.zipWith piece lines outcomes = lines.map (· ++ "\n") := by
  induction lines generalizing outcomes with
  | nil => simp
  | cons line lines ih =>
      obtain ⟨outcome, outcomes, rfl⟩ := List.exists_cons_of_length_eq_add_one hlength
      obtain ⟨e, rfl⟩ := h outcome List.mem_cons_self
      have hrest := ih (by simpa using hlength) fun o ho => h o (List.mem_cons_of_mem _ ho)
      simp [piece, hrest]

theorem stitched_of_errors {text : String} {outcomes : List (Except Error EngineResult)}
    (hlength : outcomes.length = (Text.lines text).length)
    (h : ∀ outcome ∈ outcomes, ∃ e, outcome = .error e) :
    stitched (Text.lines text) outcomes = unhighlighted text := by
  simp only [stitched, marked_of_errors h, pieces_of_errors hlength h]
  rfl

/-! ## Results of lists of lines, one behind the other -/

section Append

variable {lines : List String} {outcomes : List (Except Error EngineResult)}

theorem stitched_append_value (h : outcomes.length = lines.length) (lines' : List String)
    (outcomes' : List (Except Error EngineResult)) :
    (stitched (lines ++ lines') (outcomes ++ outcomes')).value =
      (stitched lines outcomes).value ++ (stitched lines' outcomes').value := by
  simp only [stitched, List.zipWith_append h.symm, String.join_append]

theorem stitched_append_illegal (lines' : List String)
    (outcomes' : List (Except Error EngineResult)) :
    (stitched (lines ++ lines') (outcomes ++ outcomes')).illegal =
      ((stitched lines outcomes).illegal || (stitched lines' outcomes').illegal) := by
  simp only [stitched, marked_append, List.any_append]

/-- Where the cap is reached makes no difference. -/
theorem stitched_append_relevance (lines' : List String)
    (outcomes' : List (Except Error EngineResult)) :
    (stitched (lines ++ lines') (outcomes ++ outcomes')).relevance =
      min (2 ^ 32 - 1)
        ((stitched lines outcomes).relevance + (stitched lines' outcomes').relevance) := by
  simp only [stitched, marked_append, List.map_append, List.sum_append]
  omega

end Append

end HighlightResult

open HighlightResult

namespace Progress

/-- Adds lines by their outcomes. -/
def recordAll (p : Progress) : List String → List (Except Error EngineResult) → Progress
  | line :: lines, outcome :: outcomes => (p.record line outcome).recordAll lines outcomes
  | _, _ => p

/-- Adds lines that are not run. -/
def skipAll (p : Progress) (lines : List String) : Progress :=
  lines.foldl skip p

@[simp] theorem recordAll_nil (p : Progress) : p.recordAll [] [] = p := rfl

@[simp] theorem recordAll_cons (p : Progress) (line : String)
    (outcome : Except Error EngineResult) (lines : List String)
    (outcomes : List (Except Error EngineResult)) :
    p.recordAll (line :: lines) (outcome :: outcomes) =
      (p.record line outcome).recordAll lines outcomes := rfl

/-! ## One line -/

theorem record_value (p : Progress) (line : String) (outcome : Except Error EngineResult) :
    (p.record line outcome).value = p.value ++ piece line outcome := by
  cases outcome <;> simp [record, add, keep, piece, successTerminator, failureTerminator,
    String.append_assoc]

theorem record_illegal (p : Progress) (line : String) (outcome : Except Error EngineResult) :
    (p.record line outcome).illegal =
      (p.illegal || (marked [outcome]).any EngineResult.illegal) := by
  cases outcome <;> simp [record, add, keep]

theorem record_relevance (p : Progress) (line : String) (outcome : Except Error EngineResult)
    (h : p.relevance ≤ maxRelevance) :
    (p.record line outcome).relevance =
      min maxRelevance (p.relevance + ((marked [outcome]).map EngineResult.relevance).sum) := by
  cases outcome with
  | ok r => simp [record, add]
  | error e => simp [record, keep, h]

/-! ## All lines -/

theorem recordAll_value (p : Progress) (lines : List String)
    (outcomes : List (Except Error EngineResult)) :
    (p.recordAll lines outcomes).value =
      p.value ++ String.join (List.zipWith piece lines outcomes) := by
  induction lines generalizing p outcomes with
  | nil => simp [recordAll]
  | cons line lines ih =>
      cases outcomes with
      | nil => simp [recordAll]
      | cons outcome outcomes =>
          rw [recordAll_cons, ih, record_value, List.zipWith_cons_cons, String.join_cons,
            String.append_assoc]

theorem recordAll_illegal (p : Progress) {lines : List String}
    {outcomes : List (Except Error EngineResult)} (h : outcomes.length = lines.length) :
    (p.recordAll lines outcomes).illegal =
      (p.illegal || (marked outcomes).any EngineResult.illegal) := by
  induction outcomes generalizing p lines with
  | nil => simp_all [List.length_eq_zero_iff.mp h.symm]
  | cons outcome outcomes ih =>
      obtain ⟨line, lines, rfl⟩ := List.exists_cons_of_length_eq_add_one h.symm
      have hlength : outcomes.length = lines.length := by simpa using h
      rw [recordAll_cons, ih _ hlength, record_illegal, Bool.or_assoc, ← List.any_append,
        ← marked_append, List.singleton_append]

/-- A sum that stops at a limit at every step stops there once. -/
theorem recordAll_relevance {p : Progress} {lines : List String}
    {outcomes : List (Except Error EngineResult)} (h : outcomes.length = lines.length)
    (hp : p.relevance ≤ maxRelevance) :
    (p.recordAll lines outcomes).relevance =
      min maxRelevance (p.relevance + ((marked outcomes).map EngineResult.relevance).sum) := by
  induction outcomes generalizing p lines with
  | nil => simp [recordAll, hp]
  | cons outcome outcomes ih =>
      obtain ⟨line, lines, rfl⟩ := List.exists_cons_of_length_eq_add_one h.symm
      have hlength : outcomes.length = lines.length := by simpa using h
      -- The cap on this line's sum is met again at the next line, so only the last one counts.
      have hrecord := record_relevance p line outcome hp
      have hsum : ((marked (outcome :: outcomes)).map EngineResult.relevance).sum =
          ((marked [outcome]).map EngineResult.relevance).sum +
            ((marked outcomes).map EngineResult.relevance).sum := by
        rw [← List.singleton_append, marked_append, List.map_append, List.sum_append]
      rw [recordAll_cons, ih hlength (by omega), hrecord, hsum]
      omega

/-- The result of all lines is stitched from their outcomes. -/
theorem recordAll_result {lines : List String} {outcomes : List (Except Error EngineResult)}
    (h : outcomes.length = lines.length) :
    (({} : Progress).recordAll lines outcomes).result = stitched lines outcomes := by
  have hvalue := recordAll_value {} lines outcomes
  have hillegal := recordAll_illegal {} h
  have hrelevance := recordAll_relevance (p := {}) h (Nat.zero_le _)
  simp only [result, stitched, hvalue, hillegal, hrelevance, mixedLanguage, maxRelevance]
  simp

/-- Lines that are not run are kept as they are and add nothing else to a result. -/
theorem skipAll_result (p : Progress) (lines : List String) :
    (p.skipAll lines).result =
      { p.result with value := p.result.value ++ String.join (lines.map (· ++ "\n")) } := by
  induction lines generalizing p with
  | nil => simp [skipAll, result]
  | cons line lines ih =>
      simp only [skipAll, List.foldl_cons] at ih ⊢
      rw [ih]
      simp [result, skip, keep, failureTerminator, String.append_assoc]

end Progress

end LineHighlight
