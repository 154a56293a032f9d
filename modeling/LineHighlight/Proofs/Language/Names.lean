import LineHighlight.Mode
import LineHighlight.Proofs.Text.Folding
import Mathlib.Data.List.Nodup

/-! The name under which the engine is asked for a grammar.
A text that spells the grammar of a known language stands for that grammar. Any other text
stands for itself. -/

namespace LineHighlight

namespace Language

theorem mem_all (l : Language) : l ∈ all := by
  cases l <;> decide

theorem nodup_grammars : (all.map grammar).Nodup := by
  decide +kernel

/-- No two languages have the same grammar. -/
theorem grammar_injective {l l' : Language} (h : l.grammar = l'.grammar) : l = l' :=
  List.inj_on_of_nodup_map nodup_grammars (mem_all l) (mem_all l') h

theorem grammar_plain (l : Language) :
    ∀ c ∈ l.grammar.toList, c.toLower = c ∧ Text.isBlank c = false := by
  have hall : l.grammar.toList.all
      (fun c => decide (c.toLower = c ∧ Text.isBlank c = false)) = true := by
    cases l <;> decide
  exact fun c hc => of_decide_eq_true (List.all_eq_true.mp hall c hc)

theorem lowerAscii_grammar (l : Language) : Text.lowerAscii l.grammar = l.grammar := by
  apply String.toList_inj.mp
  rw [Text.lowerAscii, String.toList_map,
    List.map_congr_left fun c hc => (l.grammar_plain c hc).1, List.map_id']

/-- Capitals in a text make no difference to which grammar it is, and no grammar has any. -/
theorem eqIgnoringCase_grammar_iff {l : Language} {s : String} :
    Text.eqIgnoringCase l.grammar (Text.trim s) = true ↔ l.grammar = Text.folded s := by
  rw [Text.eqIgnoringCase, beq_iff_eq, lowerAscii_grammar, Text.folded]

/-- A text names a language iff it folds to the grammar of that language. -/
theorem parse?_eq_some_iff {s : String} {l : Language} :
    parse? s = some l ↔ l.grammar = Text.folded s := by
  constructor
  · intro h
    have hfound := List.find?_some h
    exact eqIgnoringCase_grammar_iff.mp hfound
  · intro h
    cases hfound : parse? s with
    | none =>
        have hall := List.find?_eq_none.mp hfound l (mem_all l)
        exact absurd (eqIgnoringCase_grammar_iff.mpr h) hall
    | some l' =>
        have hother := List.find?_some hfound
        have hl' : l'.grammar = Text.folded s := eqIgnoringCase_grammar_iff.mp hother
        rw [grammar_injective (hl'.trans h.symm)]

theorem parse?_eq_none_iff {s : String} :
    parse? s = none ↔ Text.folded s ∉ all.map grammar := by
  rw [Option.eq_none_iff_forall_ne_some]
  constructor
  · rintro h hmem
    obtain ⟨l, -, hl⟩ := List.mem_map.mp hmem
    exact h l (parse?_eq_some_iff.mpr hl)
  · intro h l hl
    exact h (List.mem_map.mpr ⟨l, mem_all l, parse?_eq_some_iff.mp hl⟩)

theorem folded_grammar (l : Language) : Text.folded l.grammar = l.grammar := by
  have hplain := l.grammar_plain
  rw [Text.folded_eq_iff_spells fun c hc => (hplain c hc).2]
  refine ⟨[], l.grammar.toList, [], by simp, by simp, by simp, ?_⟩
  rw [List.map_congr_left fun c hc => (hplain c hc).1, List.map_id']

/-- The grammar that a text spells, or the text itself. -/
def canonical (s : String) : String :=
  if Text.folded s ∈ all.map grammar then Text.folded s else s

theorem canonical_of_parse? {s : String} {l : Language} (h : parse? s = some l) :
    canonical s = l.grammar := by
  have hl := parse?_eq_some_iff.mp h
  rw [canonical, if_pos (List.mem_map.mpr ⟨l, mem_all l, hl⟩), hl]

theorem canonical_of_unknown {s : String} (h : parse? s = none) : canonical s = s :=
  if_neg (parse?_eq_none_iff.mp h)

theorem canonical_canonical (s : String) : canonical (canonical s) = canonical s := by
  cases h : parse? s with
  | none => rw [canonical_of_unknown h, canonical_of_unknown h]
  | some l =>
      have hname : parse? l.grammar = some l := parse?_eq_some_iff.mpr (folded_grammar l).symm
      rw [canonical_of_parse? h, canonical_of_parse? hname]

theorem parse?_of_spells {l : Language} {s : String} (h : Text.Spells l.grammar s) :
    parse? s = some l := by
  have hplain := l.grammar_plain
  rw [parse?_eq_some_iff]
  exact ((Text.folded_eq_iff_spells (fun c hc => (hplain c hc).2) s).mpr h).symm

end Language

namespace Mode

theorem engineCall_ofRequest (s : String) (ignoreIllegals : Bool) :
    (ofRequest (some s) ignoreIllegals).engineCall =
      .grammar (Language.canonical s) ignoreIllegals := by
  cases h : Language.parse? s with
  | none =>
      rw [Language.canonical_of_unknown h]
      cases ignoreIllegals <;> simp [ofRequest, h, engineCall]
  | some l =>
      rw [Language.canonical_of_parse? h]
      cases ignoreIllegals <;> simp [ofRequest, h, engineCall]

/-- All texts that spell a language select the same mode. -/
theorem ofRequest_of_spells {l : Language} {s s' : String} (h : Text.Spells l.grammar s)
    (h' : Text.Spells l.grammar s') (ignoreIllegals : Bool) :
    ofRequest (some s) ignoreIllegals = ofRequest (some s') ignoreIllegals := by
  simp only [ofRequest, Language.parse?_of_spells h, Language.parse?_of_spells h']
  cases ignoreIllegals <;> rfl

end Mode

end LineHighlight
