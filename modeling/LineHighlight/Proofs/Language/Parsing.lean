import LineHighlight.Proofs.Decode.Steps
import LineHighlight.Proofs.Language.Names

/-! The names that a language can be given by.
A request may write the name of the grammar with blanks around it and with capitals. A typed
document has to write the name of the variant in small letters, or the name chosen in its place.
The two tables of names are the same. -/

namespace LineHighlight

theorem variant_eq_ok_iff {α : Type} {known : List (String × α)} {name : String} {a : α}
    (hnames : (known.map Prod.fst).Nodup) :
    variant known name = .ok a ↔ (name, a) ∈ known := by
  rw [variant]
  constructor
  · intro h
    split at h
    next p hfound =>
      have hname : p.1 = name := by simpa using List.find?_some hfound
      obtain rfl := Except.ok.inj h
      rw [← hname]
      exact List.mem_of_find?_eq_some hfound
    next => cases h
  · intro hmem
    cases hfound : known.find? fun p => p.1 == name with
    | none => exact absurd (beq_self_eq_true name) (List.find?_eq_none.mp hfound _ hmem)
    | some p =>
        have hname : p.1 = name := by simpa using List.find?_some hfound
        have hp : p = (name, a) :=
          List.inj_on_of_nodup_map hnames (List.mem_of_find?_eq_some hfound) hmem hname
        rw [hp]

namespace Language

/-! ## Requests -/

theorem parse_eq_ok_iff {s : String} {l : Language} :
    parse s = .ok l ↔ Text.folded s = l.grammar := by
  rw [eq_comm (a := Text.folded s), ← parse?_eq_some_iff, parse]
  cases parse? s <;> simp

theorem parse_eq_error_iff {s : String} {e : Error} :
    parse s = .error e ↔ (∀ l : Language, Text.folded s ≠ l.grammar) ∧ e = .unknownLanguage s := by
  cases h : parse? s with
  | some l =>
      have hl := (parse?_eq_some_iff.mp h).symm
      have hfound : parse s = .ok l := parse_eq_ok_iff.mpr hl
      rw [hfound]
      constructor
      · intro h
        cases h
      · exact fun ⟨hnone, _⟩ => absurd hl (hnone l)
  | none =>
      have hnone : ∀ l : Language, Text.folded s ≠ l.grammar := by
        intro l hl
        rw [parse?_eq_some_iff.mpr hl.symm] at h
        cases h
      simp [parse, h, hnone, eq_comm]

/-- Whichever language is looked at first, the same one is found. -/
theorem find?_eqIgnoringCase (s : String) {order : List Language} (horder : ∀ l, l ∈ order) :
    order.find? (fun l => Text.eqIgnoringCase l.grammar (Text.trim s)) = parse? s := by
  cases hfound : order.find? fun l : Language => Text.eqIgnoringCase l.grammar (Text.trim s) with
  | some l =>
      have hname := List.find?_some hfound
      exact (parse?_eq_some_iff.mpr (eqIgnoringCase_grammar_iff.mp hname)).symm
  | none =>
      have hnone : ∀ l : Language, ¬ l.grammar = Text.folded s := by
        intro l hl
        exact List.find?_eq_none.mp hfound l (horder l) (eqIgnoringCase_grammar_iff.mpr hl)
      symm
      rw [Option.eq_none_iff_forall_ne_some]
      exact fun l hl => hnone l (parse?_eq_some_iff.mp hl)

/-! ## Typed documents -/

/-- The small letters of the variants are the grammars, but for two. -/
theorem typedName_eq_grammar (l : Language) : l.typedName = l.grammar := by
  unfold typedName
  split
  case h_1 => rfl
  case h_2 => rfl
  case h_3 hphp hpython =>
    have hsmall : l.logName.toList.map Char.toLower = l.grammar.toList := by
      revert hphp hpython
      cases l <;> decide
    exact String.toList_inj.mp (String.toList_map.trans hsmall)

theorem ofJson_string_eq_ok_iff {s : String} {l : Language} :
    ofJson (.string s) = .ok l ↔ s = l.grammar := by
  have hnames : ((all.map fun l => (l.typedName, l)).map Prod.fst).Nodup := by
    rw [List.map_map]
    exact List.map_congr_left (fun l _ => typedName_eq_grammar l) ▸ nodup_grammars
  rw [ofJson, Json.enum, variant_eq_ok_iff hnames]
  simp [mem_all, typedName_eq_grammar, eq_comm]

/-- What a text is as a name. -/
structure NameSpec (s : String) : Prop where
  parse_iff : ∀ l, parse s = .ok l ↔
    ∃ t, Text.StripsTo s t ∧ t.toList.map Char.toLower = l.grammar.toList
  at_most_one : ∀ l l' : Language,
    Text.folded s = l.grammar → Text.folded s = l'.grammar → l = l'
  any_order : ∀ order : List Language, (∀ l, l ∈ order) →
    order.find? (fun l => Text.eqIgnoringCase l.grammar (Text.trim s)) = parse? s
  error_iff : ∀ e, parse s = .error e ↔ (∀ l, parse s ≠ .ok l) ∧ e = .unknownLanguage s
  typed_iff : ∀ l, ofJson (.string s) = .ok l ↔ s = l.grammar
  typed_parse : ∀ l, ofJson (.string s) = .ok l → parse s = .ok l
  written : ∀ l, parse s = .ok l → l.toJson = .string (Text.lowerAscii (Text.trim s))

theorem name_spec (s : String) : NameSpec s where
  parse_iff l := by
    rw [parse_eq_ok_iff, ← String.toList_inj, Text.toList_folded]
    simp only [Text.stripsTo_iff, exists_eq_left']
  at_most_one l l' h h' := grammar_injective (h.symm.trans h')
  any_order _ := find?_eqIgnoringCase s
  error_iff e := by
    rw [parse_eq_error_iff]
    simp [parse_eq_ok_iff]
  typed_iff _ := ofJson_string_eq_ok_iff
  typed_parse l h := by
    rw [parse_eq_ok_iff, ofJson_string_eq_ok_iff.mp h, folded_grammar]
  written l h := by
    rw [toJson, typedName_eq_grammar, ← parse_eq_ok_iff.mp h, Text.folded]

end Language

end LineHighlight
