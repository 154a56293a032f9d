import LineHighlight.Proofs.Highlighter.Unmarked

/-! The lines of a result.
A line that is marked up is followed by a line feed and a space, any other by a line feed alone.
The space opens the next piece of the result, so the pieces are the lines again, one place
further on and indented by what became of the line before. -/

namespace LineHighlight

open HighlightResult

/-! ### Indented pieces -/

/-- A piece behind a line that was marked up or not. -/
def indent (marked : Bool) (piece : String) : String :=
  if marked then " " ++ piece else piece

def unindent (marked : Bool) (piece : String) : String :=
  if marked then String.ofList (piece.toList.drop 1) else piece

@[simp] theorem unindent_indent (marked : Bool) (piece : String) :
    unindent marked (indent marked piece) = piece := by
  cases marked with
  | false => rfl
  | true => simp [unindent, indent, String.toList_append]

theorem not_mem_indent {marked : Bool} {piece : String} (h : '\n' ∉ piece.toList) :
    '\n' ∉ (indent marked piece).toList := by
  cases marked with
  | false => exact h
  | true => simpa [indent, String.toList_append] using h

theorem indent_append (marked : Bool) (piece rest : String) :
    indent marked (piece ++ rest) = indent marked piece ++ rest := by
  cases marked with
  | false => rfl
  | true => simp [indent, String.append_assoc]

theorem indent_empty_append (marked : Bool) (rest : String) :
    indent marked "" ++ rest = indent marked rest := by
  rw [← indent_append, String.empty_append]

/-- Pieces, each with a line feed and an indentation behind it. -/
def terminated (flags : List Bool) (pieces : List String) : String :=
  String.join (List.zipWith (fun piece flag => piece ++ "\n" ++ indent flag "") pieces flags)

/-- Pieces that a line feed and an indentation follow are indented pieces with line feeds
between them, the last one of them empty. -/
theorem indent_join (before : Bool) {flags : List Bool} {pieces : List String}
    (h : flags.length = pieces.length) :
    indent before (terminated flags pieces) =
      "\n".intercalate (List.zipWith indent (before :: flags) (pieces ++ [""])) := by
  induction pieces generalizing before flags with
  | nil => simp [terminated, List.eq_nil_of_length_eq_zero h]
  | cons piece pieces ih =>
      obtain ⟨flag, flags, rfl⟩ := List.exists_cons_of_length_eq_add_one h
      have hne : List.zipWith indent (flag :: flags) (pieces ++ [""]) ≠ [] := by simp
      have hfirst : terminated (flag :: flags) (piece :: pieces) =
          piece ++ "\n" ++ indent flag (terminated flags pieces) := by
        rw [terminated, List.zipWith_cons_cons, String.join_cons, String.append_assoc,
          indent_empty_append]
        rfl
      rw [hfirst, List.cons_append, List.zipWith_cons_cons, String.intercalate_cons_of_ne_nil hne,
        ← ih flag (Nat.succ.inj h), indent_append, indent_append]

theorem unindent_pieces (before : Bool) {flags : List Bool} {pieces : List String}
    (h : flags.length = pieces.length) :
    List.zipWith unindent (before :: flags)
      (List.zipWith indent (before :: flags) (pieces ++ [""])).dropLast = pieces := by
  induction pieces generalizing before flags with
  | nil => simp [List.eq_nil_of_length_eq_zero h]
  | cons piece pieces ih =>
      obtain ⟨flag, flags, rfl⟩ := List.exists_cons_of_length_eq_add_one h
      have hne : List.zipWith indent (flag :: flags) (pieces ++ [""]) ≠ [] := by simp
      have hrest := ih flag (Nat.succ.inj h)
      rw [List.cons_append, List.zipWith_cons_cons, List.dropLast_cons_of_ne_nil hne,
        List.zipWith_cons_cons, unindent_indent, hrest]

/-! ### Marks -/

/-- The text that stands for a line, given what the engine made of it, if anything. -/
def kept (line : String) : Option EngineResult → String
  | some r => r.value
  | none => line

theorem piece_eq (line : String) (outcome : Except Error EngineResult) :
    piece line outcome =
      kept line outcome.toOption ++ "\n" ++ indent outcome.toOption.isSome "" := by
  cases outcome with
  | ok r => simp [piece, kept, indent, Except.toOption, String.append_assoc]
  | error e => simp [piece, kept, indent, Except.toOption]

namespace Segments

variable {W C E : Type} {s : Segments W C E} {mode : Mode} {deadline : Option Nat}

/-- What the engine makes of lines one after another. A line that is late or fails has no mark. -/
inductive Marks (s : Segments W C E) (deadline : Option Nat) (mode : Mode) :
    System W E → List String → List (Option EngineResult) → Prop
  | nil (σ : System W E) : Marks s deadline mode σ [] []
  | late {σ : System W E} {line : String} {lines : List String} {marks : List (Option EngineResult)}
      (hlate : (s.isLate deadline σ).value = true)
      (hrest : Marks s deadline mode (s.isLate deadline σ).world lines marks) :
      Marks s deadline mode σ (line :: lines) (none :: marks)
  | ran {σ : System W E} {line : String} {lines : List String} {marks : List (Option EngineResult)}
      {outcome : Except Error EngineResult} (hearly : (s.isLate deadline σ).value = false)
      (hrun : (s.run none mode line (s.isLate deadline σ).world).value = .done outcome)
      (hrest : Marks s deadline mode (s.run none mode line (s.isLate deadline σ).world).world
        lines marks) :
      Marks s deadline mode σ (line :: lines) (outcome.toOption :: marks)

theorem Marks.unique {σ : System W E} {lines : List String}
    {marks marks' : List (Option EngineResult)}
    (h : s.Marks deadline mode σ lines marks) (h' : s.Marks deadline mode σ lines marks') :
    marks = marks' := by
  induction h generalizing marks' with
  | nil =>
      cases h'
      rfl
  | late hlate _ ih =>
      cases h' with
      | late _ hrest' => rw [ih hrest']
      | ran hearly' _ _ => exact absurd (hlate.symm.trans hearly') (by decide)
  | ran hearly hrun _ ih =>
      cases h' with
      | late hlate' _ => exact absurd (hlate'.symm.trans hearly) (by decide)
      | ran _ hrun' hrest' =>
          obtain rfl := LineRun.done.inj (hrun.symm.trans hrun')
          rw [ih hrest']

theorem Marks.length_eq {σ : System W E} {lines : List String}
    {marks : List (Option EngineResult)} (h : s.Marks deadline mode σ lines marks) :
    marks.length = lines.length := by
  induction h with
  | nil => rfl
  | late _ _ ih => rw [List.length_cons, List.length_cons, ih]
  | ran _ _ _ ih => rw [List.length_cons, List.length_cons, ih]

/-- What a finished run has written of its lines. -/
def written (lines : List String) (marks : List (Option EngineResult)) : String :=
  terminated (marks.map Option.isSome) (List.zipWith kept lines marks)

theorem written_cons (line : String) (lines : List String) (mark : Option EngineResult)
    (marks : List (Option EngineResult)) :
    written (line :: lines) (mark :: marks) =
      kept line mark ++ "\n" ++ indent mark.isSome "" ++ written lines marks := by
  rw [written, List.map_cons, List.zipWith_cons_cons, terminated, List.zipWith_cons_cons,
    String.join_cons]
  rfl

theorem exists_marks {lines : List String} {p q : Progress} {σ : System W E}
    (h : (s.runLines none deadline mode lines p σ).value = .finished q) :
    ∃ marks, s.Marks deadline mode σ lines marks ∧ q.value = p.value ++ written lines marks := by
  induction lines generalizing p σ with
  | nil =>
      obtain rfl := RequestRun.finished.inj h
      exact ⟨[], .nil σ, by simp [written, terminated]⟩
  | cons line lines ih =>
      rcases runLines_cons_finished h with ⟨hlate, hrest⟩ | ⟨outcome, hearly, hrun, hrest⟩
      · obtain ⟨marks, hmarks, hvalue⟩ := ih hrest
        refine ⟨none :: marks, .late hlate hmarks, ?_⟩
        rw [hvalue, written_cons]
        simp [Progress.skip, Progress.keep, kept, indent, failureTerminator, String.append_assoc]
      · obtain ⟨marks, hmarks, hvalue⟩ := ih hrest
        refine ⟨outcome.toOption :: marks, .ran hearly hrun hmarks, ?_⟩
        rw [hvalue, written_cons, Progress.record_value, piece_eq, String.append_assoc]

/-- A run whose calls return is finished. -/
theorem exists_finished (h : s.loader.runtime.CallsReturn) (lines : List String) (p : Progress)
    (σ : System W E) : ∃ q, (s.runLines none deadline mode lines p σ).value = .finished q := by
  induction lines generalizing p σ with
  | nil => exact ⟨p, rfl⟩
  | cons line lines ih =>
      cases hlate : (s.isLate deadline σ).value with
      | true =>
          obtain ⟨q, hq⟩ := ih (p.skip line) (s.isLate deadline σ).world
          refine ⟨q, ?_⟩
          simp only [runLines, Act.bind_apply, hlate, if_true, hq]
      | false =>
          obtain ⟨outcome, hrun⟩ := run_done h mode line (s.isLate deadline σ).world
          obtain ⟨q, hq⟩ := ih (p.record line outcome)
            (s.run none mode line (s.isLate deadline σ).world).world
          refine ⟨q, ?_⟩
          simp only [runLines, Act.bind_apply, hlate, Bool.false_eq_true, if_false, hrun, hq]

theorem request_value_eq_finished_iff {limit : Option Nat} {text : String}
    {result : HighlightResult} {σ : System W E} :
    (s.request limit deadline text mode σ).value = .finished result ↔
      ∃ q, (s.runLines limit deadline mode (Text.lines text) {} σ).value = .finished q ∧
        q.result = result := by
  cases hrun : (s.runLines limit deadline mode (Text.lines text) {} σ).value with
  | finished q => simp [request, Act.write, hrun, conclude]
  | panicked reason => simp [request, Act.write, hrun, conclude]
  | waiting before line rest handle wake => simp [request, Act.write, hrun, conclude]

end Segments

/-! ### Alignment -/

section Alignment

variable {lines : List String} {marks : List (Option EngineResult)}

/-- The lines of a value are pieces for given lines, in their order. -/
structure Aligned (lines : List String) (marks : List (Option EngineResult)) (value : String) :
    Prop where
  marks_length : marks.length = lines.length
  length_eq : (Text.lines value).length = lines.length + 1
  first : ∀ line mark, lines[0]? = some line → marks[0]? = some mark →
    (Text.lines value)[0]? = some (kept line mark)
  next : ∀ (i : Nat) line mark before, lines[i + 1]? = some line → marks[i + 1]? = some mark →
    marks[i]? = some before →
    (Text.lines value)[i + 1]? = some (indent before.isSome (kept line mark))
  last : ∀ mark, marks.getLast? = some mark →
    (Text.lines value)[lines.length]? = some (indent mark.isSome "")
  /-- It takes only the flags to find the pieces again. -/
  recovered : List.zipWith unindent (false :: marks.map Option.isSome) (Text.lines value).dropLast =
    List.zipWith kept lines marks

theorem exists_of_mem_zipWith {α β γ : Type} {f : α → β → γ} {xs : List α} {ys : List β} {z : γ}
    (h : z ∈ List.zipWith f xs ys) : ∃ x ∈ xs, ∃ y ∈ ys, f x y = z := by
  obtain ⟨i, hi⟩ := List.mem_iff_getElem?.mp h
  obtain ⟨x, y, hx, hy, hz⟩ := List.getElem?_zipWith_eq_some.mp hi
  exact ⟨x, List.mem_of_getElem? hx, y, List.mem_of_getElem? hy, hz⟩

theorem lines_written (hlength : marks.length = lines.length)
    (hwhole : ∀ piece ∈ List.zipWith kept lines marks, '\n' ∉ piece.toList) :
    Text.lines (Segments.written lines marks) =
      List.zipWith indent (false :: marks.map Option.isSome)
        (List.zipWith kept lines marks ++ [""]) := by
  have hflags : (marks.map Option.isSome).length = (List.zipWith kept lines marks).length := by
    simp [hlength]
  have hjoin := indent_join false hflags
  rw [indent, if_neg Bool.false_ne_true] at hjoin
  rw [Segments.written, hjoin]
  apply Text.lines_intercalate
  · simp
  · intro piece hpiece
    obtain ⟨flag, -, whole, hmem, rfl⟩ := exists_of_mem_zipWith hpiece
    apply not_mem_indent
    rcases List.mem_append.mp hmem with hmem | hmem
    · exact hwhole whole hmem
    · obtain rfl := List.mem_singleton.mp hmem
      exact List.not_mem_nil

theorem aligned_written (hlength : marks.length = lines.length)
    (hwhole : ∀ piece ∈ List.zipWith kept lines marks, '\n' ∉ piece.toList) :
    Aligned lines marks (Segments.written lines marks) := by
  have hlines := lines_written hlength hwhole
  have hpieces : (List.zipWith kept lines marks).length = lines.length := by simp [hlength]
  have hpiece : ∀ (i : Nat) line mark, lines[i]? = some line → marks[i]? = some mark →
      (List.zipWith kept lines marks ++ [""])[i]? = some (kept line mark) := by
    intro i line mark hline hmark
    have hi : (List.zipWith kept lines marks)[i]? = some (kept line mark) :=
      List.getElem?_zipWith_eq_some.mpr ⟨line, mark, hline, hmark, rfl⟩
    rw [List.getElem?_append_left (List.getElem?_eq_some_iff.mp hi).1, hi]
  refine ⟨hlength, ?_, ?_, ?_, ?_, ?_⟩
  · rw [hlines]
    simp [hlength]
  · intro line mark hline hmark
    rw [hlines, List.getElem?_zipWith_eq_some]
    exact ⟨false, kept line mark, rfl, hpiece 0 line mark hline hmark, rfl⟩
  · intro i line mark before hline hmark hbefore
    rw [hlines, List.getElem?_zipWith_eq_some]
    refine ⟨before.isSome, kept line mark, ?_, hpiece (i + 1) line mark hline hmark, rfl⟩
    rw [List.getElem?_cons_succ, List.getElem?_map, hbefore, Option.map_some]
  · intro mark hmark
    rw [List.getLast?_eq_getElem?] at hmark
    have hpos : marks.length - 1 < marks.length := (List.getElem?_eq_some_iff.mp hmark).1
    have hsucc : lines.length = marks.length - 1 + 1 := by omega
    rw [hlines, List.getElem?_zipWith_eq_some]
    refine ⟨mark.isSome, "", ?_, ?_, rfl⟩
    · rw [hsucc, List.getElem?_cons_succ, List.getElem?_map, hmark, Option.map_some]
    · rw [List.getElem?_append_right (Nat.le_of_eq hpieces), hpieces, Nat.sub_self]
      rfl
  · rw [hlines]
    exact unindent_pieces false (by simp [hlength])

end Alignment

namespace Segments

variable {W C E : Type}

/-- A finished request without a line feed in what the engine made of its lines is aligned with
its text, and it is finished if all calls return. -/
theorem aligned_spec (s : Segments W C E) (deadline : Option Nat) (text : String) (mode : Mode)
    (σ : System W E) :
    (s.loader.runtime.CallsReturn →
      ∃ result, (s.request none deadline text mode σ).value = .finished result) ∧
    ∀ result, (s.request none deadline text mode σ).value = .finished result →
      ∃ marks, s.Marks deadline mode σ (Text.lines text) marks ∧
        ((∀ r : EngineResult, some r ∈ marks → '\n' ∉ r.value.toList) →
          Aligned (Text.lines text) marks result.value) := by
  constructor
  · intro hreturn
    obtain ⟨q, hq⟩ := exists_finished hreturn (Text.lines text) {} σ
    exact ⟨q.result, request_value_eq_finished_iff.mpr ⟨q, hq, rfl⟩⟩
  · intro result hresult
    obtain ⟨q, hq, rfl⟩ := request_value_eq_finished_iff.mp hresult
    obtain ⟨marks, hmarks, hvalue⟩ := exists_marks hq
    refine ⟨marks, hmarks, ?_⟩
    intro hwhole
    have hwritten : q.result.value = written (Text.lines text) marks := by
      rw [Progress.result, hvalue, String.empty_append]
    rw [hwritten]
    apply aligned_written hmarks.length_eq
    intro piece hpiece
    obtain ⟨line, hline, mark, hmark, rfl⟩ := exists_of_mem_zipWith hpiece
    cases mark with
    | some r => exact hwhole r hmark
    | none => exact Text.not_mem_of_mem_lines hline

/-- The first line finds no engine. The space behind the second one and the one in front of the
third are two. -/
theorem aligned_spec_leading_space :
    Aligned ["a", "b", " c"]
      [none, some ⟨"<span>b</span>", false, 1, "plaintext"⟩,
        some ⟨"<span> c</span>", false, 2, "plaintext"⟩]
      "a\n<span>b</span>\n <span> c</span>\n " := by
  obtain ⟨marks, hmarks, haligned⟩ :=
    (aligned_spec World.echoing none "a\nb\n c" .automatic (World.unloaded 1)).2
      ⟨"a\n<span>b</span>\n <span> c</span>\n ", false, "mixed", 3⟩ rfl
  obtain rfl := hmarks.unique (.ran rfl rfl (.ran rfl rfl (.ran rfl rfl (.nil _))))
  apply haligned
  intro r hr
  change some r ∈ [none, some ⟨"<span>b</span>", false, 1, "plaintext"⟩,
    some ⟨"<span> c</span>", false, 2, "plaintext"⟩] at hr
  simp only [List.mem_cons, List.not_mem_nil, Option.some.injEq, reduceCtorEq, or_false,
    false_or] at hr
  rcases hr with rfl | rfl <;> decide

end Segments

end LineHighlight
