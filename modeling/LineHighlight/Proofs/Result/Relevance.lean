import LineHighlight.Proofs.Number.Nearest
import LineHighlight.Proofs.Number.Numerals
import LineHighlight.Proofs.Result.Decoding
import LineHighlight.Proofs.Text.Folding

/-! The relevance that an integer stands for.
An integer of 64 bits is rounded to a double, as a number and as text alike, and wraps around to
32 bits. On the way to the signed range it passes through casts, and they are exact. -/

namespace LineHighlight

/-! ### From doubles to 32 bits -/

namespace Binary64

variable {x : Binary64} {d : Int}

/-- The unsigned number nearest to an integer. -/
def saturated (d : Int) : UInt32 :=
  UInt32.ofNat (min d.toNat (2 ^ 32 - 1))

theorem toNat_saturated (hlow : 0 ≤ d) (hhigh : d < 2 ^ 32) : ((saturated d).toNat : Int) = d := by
  have hfits : min d.toNat (2 ^ 32 - 1) < 2 ^ 32 := by omega
  rw [saturated, UInt32.toNat_ofNat', Nat.mod_eq_of_lt hfits]
  omega

theorem toInt_saturated (hlow : 0 ≤ d) (hhigh : d < 2 ^ 32) :
    (saturated d).toInt32.toInt = d.bmod (2 ^ 32) := by
  have hfits : ((min d.toNat (2 ^ 32 - 1) : Nat) : Int) = d := by omega
  rw [saturated, UInt32.toInt32_ofNat', Int32.toInt_ofNat', hfits]
  rfl

/-- The remainder of a finite double passes through both casts without loss. -/
theorem toInt32_eq_toInt_saturated (h : x.truncate? = some d) :
    x.toInt32 = (saturated (d % 2 ^ 32)).toInt32.toInt := by
  have hwrap : (d % 2 ^ 32).bmod (2 ^ 32) = d.bmod (2 ^ 32) := Int.emod_bmod d (2 ^ 32)
  rw [toInt_saturated (by omega) (by omega), hwrap, toInt32_eq_bmod h]

end Binary64

/-! ### From fields to doubles -/

/-- The value is an integer, or its digits with blanks around them. -/
def Json.Denotes (n : Int) : Json → Prop
  | .number (.integer m) => m = n
  | .string s => ∃ front back : String, (∀ c ∈ front.toList, Text.isBlank c = true) ∧
      (∀ c ∈ back.toList, Text.isBlank c = true) ∧ s = front ++ toString n ++ back
  | _ => False

theorem Text.isBlank_of_digit {c : Char} (h : c.isDigit = true) : isBlank c = false := by
  have hrange : 48 ≤ c.toNat ∧ c.toNat ≤ 57 := by
    simpa [Char.isDigit, UInt32.le_iff_toNat_le] using h
  simp only [isBlank, Bool.or_eq_false_iff, Bool.and_eq_false_iff, beq_eq_false_iff_ne,
    decide_eq_false_iff_not]
  omega

theorem Text.isBlank_of_mem_toString {n : Int} {c : Char} (hc : c ∈ (toString n).toList) :
    isBlank c = false := by
  rw [NumberFormat.toString_eq_sign_append, String.toList_append, String.toList_ofList,
    List.mem_append] at hc
  rcases hc with hsign | hdigit
  · split at hsign
    case isTrue =>
      obtain rfl := List.mem_singleton.mp hsign
      decide
    case isFalse => cases hsign
  · exact isBlank_of_digit (Numeral.isDigit_toDigits _ c hdigit)

theorem Json.Denotes.relevanceNumber_eq {n : Int} {v : Json} (h : v.Denotes n) :
    v.relevanceNumber = Binary64.ofInt n := by
  cases v with
  | number m =>
      cases m with
      | integer m =>
          obtain rfl : m = n := h
          rfl
      | double x => exact absurd h not_false
  | string s =>
      obtain ⟨front, back, hfront, hback, rfl⟩ := h
      have hsplit : (front ++ toString n ++ back).toList =
          front.toList ++ (toString n).toList ++ back.toList := by
        rw [String.toList_append, String.toList_append]
      have htrim : Text.trim (front ++ toString n ++ back) = toString n := by
        apply String.toList_inj.mp
        exact Text.toList_trim_of_blanks hsplit hfront hback fun _ => Text.isBlank_of_mem_toString
      rw [relevanceNumber, htrim, Numeral.plain?_toString, Option.getD_some]
  | null => exact absurd h not_false
  | boolean b => exact absurd h not_false
  | array items => exact absurd h not_false
  | object fields => exact absurd h not_false

/-! ### The relevance -/

namespace EngineResult

open Binary64 (IsNearest saturated)

/-- Nothing but the rounding to a double and the end of the signed range changes the relevance
of an integer of 64 bits. -/
theorem relevance_spec {n : Int} (hlow : -2 ^ 63 ≤ n) (hhigh : n < 2 ^ 64) :
    ∃ d : Int, (∀ x : Rat, IsNearest n x ↔ x = d) ∧ (n.natAbs ≤ 2 ^ 53 → d = n) ∧
      (∀ (fields : List (String × Json)) (value language : String) (v : Json),
        Json.lookup "value" fields = some (.string value) →
        Json.lookup "language" fields = some (.string language) →
        Json.lookup "relevance" fields = some v → v.Denotes n →
        ∃ r : EngineResult, ofAnswer (.object fields) = .ok r ∧
          r.relevance = if d % 2 ^ 32 < 2 ^ 31 then (d % 2 ^ 32).toNat else 0) ∧
      ((saturated (d % 2 ^ 32)).toNat : Int) = d % 2 ^ 32 ∧
      (saturated (d % 2 ^ 32)).toInt32.toInt = (Binary64.ofInt n).toInt32 ∧
      (saturated (d % 2 ^ 32)).toInt32.toUInt32 = saturated (d % 2 ^ 32) := by
  obtain ⟨d, htruncate, hnear⟩ := Binary64.exists_nearest_int (n := n) (by omega)
  refine ⟨d, ?_, ?_, ?_, Binary64.toNat_saturated (by omega) (by omega),
    (Binary64.toInt32_eq_toInt_saturated htruncate).symm, UInt32.toUInt32_toInt32 _⟩
  · intro x
    constructor
    · exact fun hx => hx.unique hnear
    · rintro rfl
      exact hnear
  · intro hexact
    have hself := (Binary64.isDouble_intCast hexact).isNearest_self
    exact_mod_cast hnear.unique hself
  · intro fields value language v hvalue hlanguage hrelevance hv
    obtain ⟨r, hr⟩ := exists_ofAnswer_eq_ok hvalue hlanguage
    refine ⟨r, hr, ?_⟩
    rw [(ofAnswer_object_eq_ok_iff.mp hr).relevance, hrelevance, Option.map_some, Option.getD_some,
      Json.toRelevance, hv.relevanceNumber_eq, Binary64.toNat_toInt32 htruncate]

/-- From `2 ^ 54` on only every fourth integer is a double. -/
theorem relevance_spec_rounded :
    ∃ r : EngineResult, ofAnswer (.object [("relevance", .string "\u3000 18014398509481991\n"),
        ("language", .string "y"), ("value", .string "x")]) = .ok r ∧ r.relevance = 8 := by
  obtain ⟨d, hd, -, hrelevance, -⟩ :=
    relevance_spec (n := 18014398509481991) (by decide) (by decide)
  obtain ⟨d', htruncate, hnear⟩ := Binary64.exists_nearest_int (n := 18014398509481991) (by decide)
  have hrounded : (Binary64.ofInt 18014398509481991).truncate? = some 18014398509481992 := by
    decide +kernel
  obtain rfl : d' = 18014398509481992 := Option.some.inj (htruncate.symm.trans hrounded)
  obtain rfl : d = 18014398509481992 := by exact_mod_cast ((hd _).mp hnear).symm
  exact hrelevance _ "x" "y" _ rfl rfl rfl ⟨"\u3000 ", "\n",
    List.all_eq_true.mp rfl, List.all_eq_true.mp rfl, by decide⟩

end EngineResult

end LineHighlight
