import Facets.Proofs.Field.Limits
import Facets.Proofs.Number.Nearest
import Facets.Proofs.Number.Spelling

/-
The numbers that texts are read as.

A numeral is worth a rational number (`Numeral.value`).  An integer numeral is read as
just that number, every other one is rounded once to a double (`Numeral.rounds_double`):
the places beyond which the digits are not looked at settle nothing that the digits would
settle otherwise (`Numeral.double_eq`).
-/
namespace Facets

open Text

namespace Number

variable {negative : Bool} {cs : List Char} {coefficient k num den : Nat} {exponent : Int} {q : ℚ}

/-! ## Rounding decimal fractions -/

namespace Double

theorem Rounds.eq_infinite {x : Double} (h : Rounds negative q x) (hle : (overflow : ℚ) ≤ |q|) :
    x = .infinite negative := by
  cases h with
  | finite _ hlt => exact absurd hlt (not_lt.mpr hle)
  | infinite => rfl

/-- What is at most half a unit is rounded to zero. -/
theorem ofRatio_eq_zero (hden : 0 < den) (h : 2 * (num * unitsInOne) ≤ den) :
    ofRatio negative num den = ofRatio negative 0 1 := by
  have hzero : roundUnits (num * unitsInOne) den = roundUnits (0 * unitsInOne) 1 := by
    rw [(roundUnits_eq_zero_iff hden).mpr h, (roundUnits_eq_zero_iff Nat.one_pos).mpr (by omega)]
  simp only [ofRatio, round, hzero]

theorem rounds_ofDecimal (negative : Bool) (coefficient : Nat) (exponent : Int) :
    Rounds negative (signed negative (coefficient * 10 ^ exponent))
      (ofDecimal negative coefficient exponent) := by
  unfold ofDecimal
  split
  · rename_i hexponent
    obtain ⟨k, rfl⟩ := Int.eq_ofNat_of_zero_le hexponent
    have hratio : (coefficient * 10 ^ (k : Int) : ℚ) =
        (coefficient * Nat.pow 10 k : Nat) / (1 : Nat) := by
      rw [Nat.cast_one, div_one, zpow_natCast, Nat.cast_mul, Nat.pow_eq, Nat.cast_pow]
      rfl
    rw [hratio]
    exact rounds_ofRatio negative _ Nat.one_pos
  · rename_i hexponent
    obtain ⟨k, rfl⟩ := Int.exists_eq_neg_ofNat (Int.le_of_lt (Int.not_le.mp hexponent))
    have hratio : (coefficient * 10 ^ (-(k : Int)) : ℚ) = coefficient / (Nat.pow 10 k : Nat) := by
      rw [zpow_neg, zpow_natCast, Nat.pow_eq, Nat.cast_pow, ← div_eq_mul_inv]
      rfl
    rw [hratio, Int.neg_neg, Int.toNat_natCast]
    exact rounds_ofRatio negative coefficient (Nat.pow_pos (by decide))

theorem ofDecimal_zero (negative : Bool) (exponent : Int) :
    ofDecimal negative 0 exponent = ofRatio negative 0 1 := by
  unfold ofDecimal
  split
  · rw [Nat.zero_mul]
  · refine ofRatio_eq_zero (Nat.pow_pos (by decide)) ?_
    rw [Nat.zero_mul]
    exact Nat.zero_le _

theorem overflow_le : overflow ≤ 10 ^ 399 := by decide +kernel

theorem two_mul_unitsInOne_le : 2 * unitsInOne ≤ 10 ^ 400 := by decide +kernel

/-- A first digit at the 400th place before the point is one of infinity. -/
theorem ofDecimal_eq_infinite (hlow : 10 ^ k ≤ coefficient) (h : 399 ≤ k + exponent) :
    ofDecimal negative coefficient exponent = .infinite negative := by
  obtain ⟨places, hplaces, hbound⟩ : ∃ places : Nat, places = 399 ∧ overflow ≤ 10 ^ places :=
    ⟨399, rfl, overflow_le⟩
  have hten : (1 : ℚ) ≤ 10 := by norm_num
  have hcast : (10 ^ k : ℚ) ≤ coefficient := by exact_mod_cast hlow
  refine (rounds_ofDecimal _ _ _).eq_infinite ?_
  rw [abs_signed]
  calc (overflow : ℚ) ≤ 10 ^ (places : Int) := by exact_mod_cast hbound
    _ ≤ (10 : ℚ) ^ (k + exponent) := zpow_le_zpow_right₀ hten (by omega)
    _ = 10 ^ k * 10 ^ exponent := by rw [zpow_add₀ (by norm_num), zpow_natCast]
    _ ≤ (coefficient : ℚ) * 10 ^ exponent := 
        mul_le_mul_of_nonneg_right hcast (zpow_nonneg (by norm_num) _)
    _ ≤ |(coefficient : ℚ) * 10 ^ exponent| := le_abs_self _

/-- A first digit behind the 400th place after the point is one of zero. -/
theorem ofDecimal_eq_zero (hhigh : coefficient < 10 ^ k) (h : k + exponent ≤ -400) :
    ofDecimal negative coefficient exponent = ofRatio negative 0 1 := by
  obtain ⟨places, hplaces, hbound⟩ :
      ∃ places : Nat, places = 400 ∧ 2 * unitsInOne ≤ 10 ^ places :=
    ⟨400, rfl, two_mul_unitsInOne_le⟩
  have hneg : ¬0 ≤ exponent := by omega
  rw [ofDecimal, if_neg hneg]
  refine ofRatio_eq_zero (Nat.pow_pos (by decide)) ?_
  calc 2 * (coefficient * unitsInOne) = coefficient * (2 * unitsInOne) := by ring
    _ ≤ 10 ^ k * 10 ^ places := Nat.mul_le_mul (Nat.le_of_lt hhigh) hbound
    _ = 10 ^ (k + places) := (Nat.pow_add _ _ _).symm
    _ ≤ 10 ^ (-exponent).toNat := Nat.pow_le_pow_right (by decide) (by omega)

end Double

/-! ## What numerals are worth -/

namespace Numeral

variable {n : Numeral}

/-- The exponent as written. -/
def power (n : Numeral) : Int :=
  match n.exponent with
  | none => 0
  | some (true, ds) => -(ofDecimal ds : Int)
  | some (false, ds) => (ofDecimal ds : Int)

/-- The digits before the point and the fraction after it, at the power of ten that the
exponent gives. -/
def value (n : Numeral) : ℚ :=
  let fraction := n.fraction.getD []
  signed n.negative ((ofDecimal n.whole + ofDecimal fraction / 10 ^ fraction.length) * 10 ^ n.power)

theorem value_eq (n : Numeral) :
    n.value = signed n.negative (ofDecimal n.significand * 10 ^ n.lastExponent) := by
  have hten : (10 : ℚ) ≠ 0 := by norm_num
  have hlast : n.lastExponent = n.power - ((n.fraction.getD []).length : Int) := rfl
  unfold value significand
  simp only
  rw [ofDecimal_dropZeros, ofDecimal_append, hlast, zpow_sub₀ hten, zpow_natCast]
  push_cast
  congr 1
  field_simp

theorem value_of_isInteger (h : n.isInteger = true) : n.value = n.integer := by
  obtain ⟨hfraction, hexponent⟩ := Bool.and_eq_true_iff.mp h
  have hfraction := Option.isNone_iff_eq_none.mp hfraction
  have hexponent := Option.isNone_iff_eq_none.mp hexponent
  have hzero : ofDecimal [] = 0 := rfl
  simp only [value, power, integer, signed, hfraction, hexponent, Option.getD_none, hzero,
    Nat.cast_zero, zero_div, add_zero, zpow_zero, mul_one]
  split
  · rw [Int.cast_neg, Int.cast_natCast]
  · rw [Int.cast_natCast]

/-- Settling the result without the digits changes no result. -/
theorem double_eq (h : n.Spells cs) :
    n.double = Double.ofDecimal n.negative (ofDecimal n.significand) n.lastExponent := by
  unfold double
  dsimp only
  split
  · rename_i hnone
    rw [hnone]
    exact (Double.ofDecimal_zero _ _).symm
  · rename_i hsome
    have hlength : 0 < n.significand.length := List.length_pos_iff.mpr hsome
    split
    · rename_i hlead
      have hlow : 10 ^ (n.significand.length - 1) ≤ ofDecimal n.significand :=
        le_ofDecimal_dropZeros h.digits hsome
      exact (Double.ofDecimal_eq_infinite hlow (by omega)).symm
    · split
      · rename_i hlead
        have hdigits : Digits n.significand := fun c hc =>
          h.digits c ((List.dropWhile_suffix _).subset hc)
        exact (Double.ofDecimal_eq_zero (ofDecimal_lt hdigits) hlead).symm
      · rfl

/-- A numeral is rounded to the double nearest to its value. -/
theorem rounds_double (h : n.Spells cs) : Double.Rounds n.negative n.value n.double := by
  rw [double_eq h, value_eq]
  exact Double.rounds_ofDecimal _ _ _

theorem number_of_isInteger (h : n.isInteger = true)
    (hlength : n.whole.length ≤ Fault.digitLimit) : n.number = .ok (some (.int n.integer)) := by
  rw [number, if_pos h, if_pos hlength]

theorem number_of_long (h : n.isInteger = true) (hlength : Fault.digitLimit < n.whole.length) :
    n.number = .error (.numeralTooLong n.whole.length) := by
  rw [number, if_pos h, if_neg (Nat.not_le.mpr hlength)]

theorem number_of_not_isInteger (h : n.isInteger = false) :
    n.number = .ok (n.double.finite?.map .float) := by
  rw [number, if_neg (by rw [h]; exact Bool.false_ne_true)]

end Numeral
end Number

namespace Value

open Number

variable {s : String} {n : Numeral}

theorem asNumber_of_spells (h : n.Spells (strip s.toList)) : (text s).asNumber = n.number := by
  rw [asNumber, ofText, Numeral.read?_of_spells h]

theorem asNumber_of_not_spells (h : ∀ n : Numeral, ¬n.Spells (strip s.toList)) :
    (text s).asNumber = .ok none := by
  have hread : Numeral.read? (strip s.toList) = none := by
    refine Option.eq_none_iff_forall_not_mem.mpr fun n hn => ?_
    exact h n (Numeral.spells_of_read? hn)
  rw [asNumber, ofText, hread]

/-- Texts are read by the grammar of numerals, blanks around them aside.  Digits after an
optional sign are an integer, the one that they are worth, for as long as there are not
too many of them.  Other numerals are the double nearest to what they are worth, and
nothing when that is infinite.  No other text is a number. -/
theorem asNumber_text (s : String) :
    (∀ m : Int, (text s).asNumber = .ok (some (.int m)) ↔
      ∃ n : Numeral, n.Spells (strip s.toList) ∧ n.isInteger = true ∧
        n.whole.length ≤ Fault.digitLimit ∧ n.value = m) ∧
    (∀ x, (text s).asNumber = .ok (some (.float x)) →
      ∃ n : Numeral, n.Spells (strip s.toList) ∧ n.isInteger = false ∧
        Double.Rounds n.negative n.value (.finite x)) ∧
    (∀ n : Numeral, n.Spells (strip s.toList) → n.isInteger = false →
      |n.value| < overflow → ∃ x, (text s).asNumber = .ok (some (.float x))) ∧
    ((text s).asNumber = .ok none ↔
      (∀ n : Numeral, ¬n.Spells (strip s.toList)) ∨
      ∃ n : Numeral, n.Spells (strip s.toList) ∧ n.isInteger = false ∧ overflow ≤ |n.value|) ∧
    ((∃ answer, (text s).asNumber = .ok answer) ↔
      ∀ n : Numeral, n.Spells (strip s.toList) → n.isInteger = true →
        n.whole.length ≤ Fault.digitLimit) := by
  by_cases hnumeral : ∃ n : Numeral, n.Spells (strip s.toList)
  · obtain ⟨n, hn⟩ := hnumeral
    have hall {P : Numeral → Prop} :
        (∃ m : Numeral, m.Spells (strip s.toList) ∧ P m) ↔ P n :=
      ⟨fun ⟨m, hm, hp⟩ => hm.unique hn ▸ hp, fun hp => ⟨n, hn, hp⟩⟩
    have hevery {P : Numeral → Prop} :
        (∀ m : Numeral, m.Spells (strip s.toList) → P m) ↔ P n :=
      ⟨fun h => h n hn, fun hp m hm => hm.unique hn ▸ hp⟩
    rw [asNumber_of_spells hn]
    simp only [hall, hevery]
    cases hinteger : n.isInteger with
    | true =>
      by_cases hlength : n.whole.length ≤ Fault.digitLimit
      · rw [Numeral.number_of_isInteger hinteger hlength, Numeral.value_of_isInteger hinteger]
        simp [hlength]
      · rw [Numeral.number_of_long hinteger (Nat.lt_of_not_le hlength)]
        simp [hlength]
    | false =>
      have hrounds := Numeral.rounds_double hn
      rw [Numeral.number_of_not_isInteger hinteger]
      generalize n.double = nearest at hrounds
      cases hrounds with
      | finite hsign hlt hnear =>
        have hle : ¬(overflow : ℚ) ≤ |n.value| := not_le.mpr hlt
        simpa [Double.finite?, hle] using Double.Rounds.finite hsign hlt hnear
      | infinite hle => simpa [Double.finite?] using hle
  · have hnone := not_exists.mp hnumeral
    rw [asNumber_of_not_spells hnone]
    simp [hnone]

end Value
end Facets
