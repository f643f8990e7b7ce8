import Facets.Number.Arithmetic
import Mathlib.Algebra.Ring.Nat
import Mathlib.Data.Nat.Log

/-
Rounding to doubles.

What a quotient rounds to lies on the grid of its own magnitude
(`gap_dvd_roundUnits`) and is at most about twice the quotient
(`roundUnits_le`).  So whatever stays a factor of two below the end of the finite
doubles rounds to a finite double, and the operations on such numbers have
results.
-/
namespace Facets
namespace Number

variable {num den : Nat}

/-! ## The grid -/

theorem gap_pos (n : Nat) : 0 < gap n := Nat.two_pow_pos _

theorem gap_dvd_two_pow {n e : Nat} (h : n.log2 ≤ e) : gap n ∣ 2 ^ e :=
  Nat.pow_dvd_pow 2 (le_trans (Nat.sub_le _ _) h)

theorem gap_dvd_gap {m n : Nat} (h : m.log2 ≤ n.log2) : gap m ∣ gap n :=
  Nat.pow_dvd_pow 2 (Nat.sub_le_sub_right h 52)

theorem gap_le_self {n : Nat} (hn : 0 < n) : gap n ≤ n :=
  calc gap n ≤ 2 ^ n.log2 :=
        Nat.le_of_dvd (Nat.two_pow_pos _) (gap_dvd_two_pow (Nat.le_refl _))
    _ ≤ n := Nat.log2_self_le (Nat.ne_of_gt hn)

theorem gap_le (n : Nat) : gap n ≤ n + 1 := by
  rcases Nat.eq_zero_or_pos n with rfl | hn
  · exact le_refl 1
  · exact Nat.le_succ_of_le (gap_le_self hn)

namespace Double

/-- Rounding moves a quotient by at most one step of its grid. -/
theorem roundUnits_le_add (num den : Nat) :
    roundUnits num den ≤ num / den / gap (num / den) * gap (num / den) + gap (num / den) := by
  have hdiv : num / (den * gap (num / den)) = num / den / gap (num / den) :=
    (Nat.div_div_eq_div_mul _ _ _).symm
  rw [← Nat.succ_mul]
  refine Nat.mul_le_mul_right _ ?_
  rcases divNearest_eq_or num (den * gap (num / den)) with h | h <;> omega

theorem roundUnits_le (num den : Nat) : roundUnits num den ≤ 2 * (num / den) + 1 := by
  have hstep := roundUnits_le_add num den
  have hfloor := Nat.div_mul_le_self (num / den) (gap (num / den))
  have hgap := gap_le (num / den)
  omega

/-- What is rounded stays within the power of two that ends its magnitude. -/
theorem roundUnits_le_two_pow (num den : Nat) :
    roundUnits num den ≤ 2 ^ ((num / den).log2 + 1) := by
  let q := num / den
  obtain ⟨k, hk⟩ : gap q ∣ 2 ^ (q.log2 + 1) := gap_dvd_two_pow (Nat.le_succ _)
  have hlt : q / gap q < k := by
    rw [Nat.div_lt_iff_lt_mul (gap_pos q), Nat.mul_comm, ← hk]
    exact Nat.lt_log2_self
  calc roundUnits num den
      ≤ q / gap q * gap q + gap q := roundUnits_le_add num den
    _ = (q / gap q + 1) * gap q := (Nat.succ_mul _ _).symm
    _ ≤ k * gap q := Nat.mul_le_mul_right _ hlt
    _ = 2 ^ (q.log2 + 1) := by rw [hk, Nat.mul_comm]

/-- What is rounded lies on the grid of its own magnitude, which is that of the
quotient or, at the end of it, the next one. -/
theorem gap_dvd_roundUnits (num den : Nat) : gap (roundUnits num den) ∣ roundUnits num den := by
  let n := roundUnits num den
  let e := (num / den).log2
  rcases Nat.lt_or_ge e n.log2 with hlt | hle
  · -- Beyond the magnitude of the quotient only its end is reached.
    have hne : n ≠ 0 := by
      intro h
      rw [h] at hlt
      exact Nat.not_lt_zero _ hlt
    have hpow : 2 ^ (e + 1) ≤ n := (Nat.le_log2 hne).mp hlt
    have heq : n = 2 ^ (e + 1) := Nat.le_antisymm (roundUnits_le_two_pow num den) hpow
    have hlog : n.log2 ≤ e + 1 := by rw [heq, Nat.log2_two_pow]
    have hdvd := gap_dvd_two_pow hlog
    rwa [← heq] at hdvd
  · have hstep : gap (num / den) ∣ n := Nat.dvd_mul_left _ _
    exact Nat.dvd_trans (gap_dvd_gap hle) hstep

end Double

/-! ## Numbers within the finite doubles -/

/-- A magnitude in units that stays a factor of two below the end of the finite
doubles. -/
def InRange (n : Nat) : Prop := 2 * n + 1 < beyond

/-- Natural numbers below half of the range of the finite doubles. -/
def safe : Nat := Nat.pow 2 1023

theorem InRange.of_le {m n : Nat} (h : InRange n) (hmn : m ≤ n) : InRange m := by
  unfold InRange at *
  omega

/-- How the ends of the ranges stand to each other. -/
theorem scales : beyond = 2 * (safe * unitsInOne) ∧ 0 < unitsInOne ∧ 1000 < safe := by
  decide +kernel

theorem unitsInOne_pos : 0 < unitsInOne := scales.2.1

theorem inRange_mul_unitsInOne {n : Nat} (h : n < safe) : InRange (n * unitsInOne) := by
  have hmul : (n + 1) * unitsInOne ≤ safe * unitsInOne := Nat.mul_le_mul_right _ h
  have hone := unitsInOne_pos
  rw [Nat.succ_mul] at hmul
  rw [InRange, scales.1]
  omega

theorem inRange_thousand : InRange (1000 * unitsInOne) :=
  inRange_mul_unitsInOne scales.2.2

/-- A quotient in range rounds to a finite double. -/
theorem Double.exists_round (negative : Bool) (h : InRange (num / den)) :
    ∃ x, round negative num den = .finite x ∧ x.negative = negative ∧
      x.units = roundUnits num den := by
  have hgrid : OnGrid (roundUnits num den) :=
    ⟨Nat.lt_of_le_of_lt (roundUnits_le num den) h,
      Nat.mod_eq_zero_of_dvd (gap_dvd_roundUnits num den)⟩
  refine ⟨⟨negative, roundUnits num den, hgrid⟩, ?_, rfl, rfl⟩
  simp only [round, hgrid, dite_true]

/-- A safe integer is a double. -/
theorem exists_double {n : Int} (h : n.natAbs < safe) : ∃ x, double n = .ok x := by
  have hrange : InRange (n.natAbs * unitsInOne / 1) := by
    rw [Nat.div_one]
    exact inRange_mul_unitsInOne h
  obtain ⟨x, hx, -, -⟩ := Double.exists_round (n < 0) hrange
  exact ⟨.finite x, by rw [double, Double.ofInt, Double.ofRatio, hx, Double.orFault]⟩

/-- A safe integer has quotients. -/
theorem exists_quotient_of_lt_safe {n : Int} (d : Nat) (h : n.natAbs < safe) :
    ∃ x, quotient n d = .ok (.finite x) := by
  have hrange : InRange (n.natAbs * unitsInOne / d) :=
    (inRange_mul_unitsInOne h).of_le (Nat.div_le_self _ _)
  obtain ⟨x, hx, -, -⟩ := Double.exists_round (n < 0) hrange
  exact ⟨x, by rw [quotient, Double.ofRatio, hx, Double.orFault]⟩

end Number
end Facets
