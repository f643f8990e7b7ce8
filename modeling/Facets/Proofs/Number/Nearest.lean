import Facets.Proofs.Number.Error
import Mathlib.Data.Nat.Cast.Order.Field

/-
The double nearest to a quotient.

What a quotient rounds to is no farther from it than any number on a grid
(`Double.abs_roundUnits_sub_le_of_grid`), and it lies beyond the finite doubles exactly
when the quotient reaches the middle between the greatest of them and `2 ^ 1024`
(`Double.roundUnits_lt_beyond_iff`).  `Double.Rounds` says both of a double and the
rational number that it stands for.
-/
namespace Facets
namespace Number

variable {a d k n num den : Nat}

/-- Halfway to the next number an odd number is left. -/
theorem succ_le_divNearest (hd : 0 < d) (hodd : k % 2 = 1) (h : (2 * k + 1) * d ≤ 2 * a) :
    k + 1 ≤ divNearest a d := by
  have hdiv : d * (a / d) + a % d = a := Nat.div_add_mod a d
  have hmod : a % d < d := Nat.mod_lt a hd
  have hfloor : k ≤ a / d := by
    rw [Nat.le_div_iff_mul_le hd]
    rw [Nat.add_mul, Nat.mul_assoc] at h
    omega
  rcases Nat.lt_or_eq_of_le hfloor with hlt | rfl
  · rcases divNearest_eq_or a d with hnear | hnear <;> omega
  · have hrest : d ≤ 2 * (a % d) := by
      rw [Nat.add_mul, Nat.mul_assoc, Nat.mul_comm (a / d) d] at h
      omega
    unfold divNearest
    simp only
    rw [if_neg (by omega)]
    split
    · exact Nat.le_refl _
    · rw [if_neg (by omega)]

/-- A number of `k + 53` bits is in units of `2 ^ k`. -/
theorem gap_eq_two_pow (hlow : 2 ^ (k + 52) ≤ n) (hhigh : n < 2 ^ (k + 53)) : gap n = 2 ^ k := by
  have hne : n ≠ 0 := (Nat.lt_of_lt_of_le (Nat.two_pow_pos _) hlow).ne'
  have hlog : n.log2 = k + 52 := (Nat.log2_eq_iff hne).mpr ⟨hlow, hhigh⟩
  rw [gap, hlog, Nat.add_sub_cancel]
  rfl

namespace Double

/-- A quotient is not rounded below a number that lies on its grid. -/
theorem le_roundUnits_of_le (hden : 0 < den) (h : n * den ≤ num) (hgrid : gap (num / den) ∣ n) :
    n ≤ roundUnits num den := by
  obtain ⟨m, rfl⟩ := hgrid
  have hfloor : m ≤ num / (den * gap (num / den)) := by
    rw [Nat.le_div_iff_mul_le (Nat.mul_pos hden (gap_pos _))]
    refine le_trans (le_of_eq ?_) h
    ring
  have hnear : m ≤ divNearest num (den * gap (num / den)) := by
    rcases divNearest_eq_or num (den * gap (num / den)) with hnear | hnear <;> omega
  calc gap (num / den) * m = m * gap (num / den) := Nat.mul_comm _ _
    _ ≤ roundUnits num den := Nat.mul_le_mul_right _ hnear

/-- A quotient is not rounded below a power of two, which lies on every grid that
begins later. -/
theorem two_pow_le_roundUnits (hden : 0 < den) (h : 2 ^ k ≤ num / den) :
    2 ^ k ≤ roundUnits num den := by
  have hpos : 0 < num / den := Nat.lt_of_lt_of_le (Nat.two_pow_pos _) h
  have hlog : k ≤ (num / den).log2 := (Nat.le_log2 hpos.ne').mpr h
  calc 2 ^ k ≤ 2 ^ (num / den).log2 := Nat.pow_le_pow_right Nat.two_pos hlog
    _ ≤ roundUnits num den := by
      refine le_roundUnits_of_le hden ?_ (gap_dvd_two_pow (Nat.le_refl _))
      exact (Nat.le_div_iff_mul_le hden).mp (Nat.log2_self_le hpos.ne')

/-! ## The nearest number on a grid -/

/-- No other number on the grid of a quotient is nearer to it. -/
theorem abs_roundUnits_sub_le_of_dvd (hden : 0 < den) (h : gap (num / den) ∣ n) :
    |(roundUnits num den : ℚ) - num / den| ≤ |(n : ℚ) - num / den| := by
  let r := roundUnits num den
  let step := gap (num / den)
  by_cases heq : n = r
  · rw [heq]
  · have hdvd : (step : Int) ∣ n - r :=
      dvd_sub (Int.natCast_dvd_natCast.mpr h) (Int.natCast_dvd_natCast.mpr (Nat.dvd_mul_left _ _))
    have hne : (n : Int) - r ≠ 0 := by omega
    have hapart : (step : Int) ≤ |(n : Int) - r| :=
      Int.le_of_dvd (abs_pos.mpr hne) ((dvd_abs _ _).mpr hdvd)
    have hapart' : (step : ℚ) ≤ |(n : ℚ) - r| := by exact_mod_cast hapart
    have hnear : |(r : ℚ) - num / den| ≤ step / 2 := abs_roundUnits_sub_le hden
    have htriangle : |(n : ℚ) - r| ≤ |(n : ℚ) - num / den| + |(r : ℚ) - num / den| := by
      rw [abs_sub_comm (r : ℚ)]
      exact abs_sub_le _ _ _
    linarith

/-- No number on its own grid is nearer to a quotient than what the quotient rounds
to. -/
theorem abs_roundUnits_sub_le_of_grid (hden : 0 < den) (h : gap n ∣ n) :
    |(roundUnits num den : ℚ) - num / den| ≤ |(n : ℚ) - num / den| := by
  by_cases hdvd : gap (num / den) ∣ n
  · exact abs_roundUnits_sub_le_of_dvd hden hdvd
  · -- The grid is finer only below the power of two that begins the magnitude.
    have hlog : n.log2 < (num / den).log2 := by
      by_contra hle
      exact hdvd (dvd_trans (gap_dvd_gap (Nat.le_of_not_lt hle)) h)
    let p := 2 ^ (num / den).log2
    have hn : n ≤ p := by
      rcases Nat.eq_zero_or_pos n with rfl | hpos
      · exact Nat.zero_le _
      · exact Nat.le_of_lt ((Nat.log2_lt hpos.ne').mp hlog)
    have hp : p ≤ num / den := by
      refine Nat.log2_self_le ?_
      intro hzero
      rw [hzero] at hlog
      exact Nat.not_lt_zero _ hlog
    have hquotient : (p : ℚ) ≤ num / den :=
      le_trans (Nat.cast_le.mpr hp) Nat.cast_div_le
    have hnear := abs_roundUnits_sub_le_of_dvd hden (gap_dvd_two_pow (Nat.le_refl (num / den).log2))
    have hle : (n : ℚ) ≤ p := Nat.cast_le.mpr hn
    rw [abs_of_nonpos (a := (n : ℚ) - num / den) (by linarith)]
    rw [abs_of_nonpos (a := ((2 ^ (num / den).log2 : Nat) : ℚ) - num / den) (by linarith)] at hnear
    linarith

/-! ## The end of the finite doubles -/

/-- The distance between the greatest finite doubles. -/
def lastGap : Nat := 2 ^ 2045

theorem beyond_eq : beyond = 2 ^ (2045 + 53) := by decide +kernel

/-- What is rounded lies beyond the finite doubles from the middle of the last step
on. -/
theorem beyond_le_roundUnits_iff (hden : 0 < den) :
    beyond ≤ roundUnits num den ↔ (2 * beyond - lastGap) * den ≤ 2 * num := by
  have hgap : 0 < lastGap := by decide +kernel
  constructor
  · intro hle
    by_contra hlt
    have hfloor : num / den < 2 ^ (2045 + 53) := by
      rw [← beyond_eq, Nat.div_lt_iff_lt_mul hden]
      rw [Nat.sub_mul, Nat.mul_assoc] at hlt
      omega
    have hstep : den * gap (num / den) ≤ den * lastGap :=
      Nat.mul_le_mul_left den (gap_le_two_pow hfloor)
    have hbounds := (two_mul_roundUnits_bounds num hden).2
    have hmul : beyond * den ≤ roundUnits num den * den := Nat.mul_le_mul_right den hle
    rw [Nat.sub_mul, Nat.mul_assoc, Nat.mul_comm lastGap] at hlt
    rw [Nat.mul_assoc] at hbounds
    omega
  · intro hle
    rcases Nat.lt_or_ge (num / den) beyond with hlt | hge
    · have hlow : 2 ^ (2045 + 52) ≤ num / den := by
        have hhalf : 2 ^ (2045 + 52) * 2 ≤ 2 * beyond - lastGap := by decide +kernel
        have hmul := Nat.mul_le_mul_right den hhalf
        rw [Nat.le_div_iff_mul_le hden]
        rw [Nat.mul_right_comm] at hmul
        omega
      have hstep : gap (num / den) = lastGap :=
        gap_eq_two_pow hlow (hlt.trans_eq beyond_eq)
      have hodd : (2 ^ 53 - 1) % 2 = 1 := by decide
      have hscale : 2 * beyond - lastGap = (2 * (2 ^ 53 - 1) + 1) * lastGap := by decide +kernel
      have hnear : 2 ^ 53 - 1 + 1 ≤ divNearest num (den * lastGap) := by
        refine succ_le_divNearest (Nat.mul_pos hden hgap) hodd ?_
        rw [hscale] at hle
        refine le_trans (le_of_eq ?_) hle
        ring
      have hbeyond : beyond = (2 ^ 53 - 1 + 1) * lastGap := by decide +kernel
      rw [hbeyond, roundUnits, hstep]
      exact Nat.mul_le_mul_right _ hnear
    · rw [beyond_eq] at hge ⊢
      exact two_pow_le_roundUnits hden hge

end Double

/-! ## Rounding rational numbers -/

/-- The middle between the greatest finite double and `2 ^ 1024`.  From here on numbers
are rounded to infinity. -/
@[irreducible]
def overflow : Nat := 2 ^ 1024 - 2 ^ 970

def signed (negative : Bool) (q : ℚ) : ℚ := if negative then -q else q

/-- What a rational number is rounded to: a finite double of its sign to which no other
one is nearer, or the infinity of its sign. -/
inductive Double.Rounds (negative : Bool) (q : ℚ) : Double → Prop
  | finite {x : FiniteDouble} (hsign : x.negative = negative) (hlt : |q| < overflow)
    (hnear : ∀ y : FiniteDouble, |(float x).value - q| ≤ |(float y).value - q|) :
    Rounds negative q (.finite x)
  | infinite (hle : (overflow : ℚ) ≤ |q|) : Rounds negative q (.infinite negative)

theorem abs_signed (negative : Bool) (q : ℚ) : |signed negative q| = |q| := by
  cases negative <;> simp [signed]

theorem abs_signed_sub_signed (negative : Bool) (p q : ℚ) :
    |signed negative p - signed negative q| = |p - q| := by
  cases negative
  · rfl
  · show |-p - -q| = |p - q|
    rw [neg_sub_neg, abs_sub_comm]

theorem FiniteDouble.value_eq (x : FiniteDouble) :
    (float x).value = signed x.negative (x.units / unitsInOne) := by
  show (x.scaled : ℚ) / unitsInOne = _
  unfold FiniteDouble.scaled signed
  split
  · rw [Int.cast_neg, Int.cast_natCast, neg_div]
  · rw [Int.cast_natCast]

theorem gap_dvd_units (x : FiniteDouble) : gap x.units ∣ x.units :=
  Nat.dvd_of_mod_eq_zero x.onGrid.2

namespace Double

theorem roundUnits_lt_beyond_iff (hden : 0 < den) :
    roundUnits (num * unitsInOne) den < beyond ↔ (num / den : ℚ) < overflow := by
  have hscale : 2 * beyond - lastGap = 2 * overflow * unitsInOne := by decide +kernel
  have hone := unitsInOne_pos
  have hpos : (0 : ℚ) < den := Nat.cast_pos.mpr hden
  rw [← not_iff_not, Nat.not_lt, beyond_le_roundUnits_iff hden, hscale, not_lt, le_div_iff₀ hpos,
    ← Nat.cast_mul, Nat.cast_le]
  have hleft : 2 * overflow * unitsInOne * den = overflow * den * (2 * unitsInOne) := by ring
  have hright : 2 * (num * unitsInOne) = num * (2 * unitsInOne) := by ring
  rw [hleft, hright]
  exact Nat.mul_le_mul_right_iff (by omega)

/-- A quotient of natural numbers with a sign is rounded to the nearest double. -/
theorem rounds_ofRatio (negative : Bool) (num : Nat) (hden : 0 < den) :
    Rounds negative (signed negative (num / den)) (ofRatio negative num den) := by
  have hquotient : (0 : ℚ) ≤ num / den := by positivity
  have habs : |signed negative (num / den)| = (num : ℚ) / den := by
    rw [abs_signed, abs_of_nonneg hquotient]
  unfold ofRatio round
  dsimp only
  split
  · rename_i hgrid
    refine .finite rfl ?_ fun y => ?_
    · rw [habs]
      exact (roundUnits_lt_beyond_iff hden).mp hgrid.1
    · have hunits : ∀ n : Nat, (n : ℚ) / unitsInOne - num / den =
          (n - (num * unitsInOne : Nat) / den) / unitsInOne := fun n => by
        have hone := unitsInOne_cast_pos.ne'
        rw [Nat.cast_mul, sub_div, div_right_comm, mul_div_cancel_right₀ _ hone]
      have hnear : |(roundUnits (num * unitsInOne) den : ℚ) - (num * unitsInOne : Nat) / den| ≤
          |(y.units : ℚ) - (num * unitsInOne : Nat) / den| :=
        abs_roundUnits_sub_le_of_grid hden (gap_dvd_units y)
      calc |(float ⟨negative, roundUnits (num * unitsInOne) den, hgrid⟩).value -
            signed negative (num / den)|
          = |(roundUnits (num * unitsInOne) den : ℚ) / unitsInOne - num / den| := by
            rw [FiniteDouble.value_eq, abs_signed_sub_signed]
        _ ≤ |(y.units : ℚ) / unitsInOne - num / den| := by
            rw [hunits, hunits, abs_div, abs_div]
            exact div_le_div_of_nonneg_right hnear (abs_nonneg _)
        _ = |(|(float y).value| - |signed negative (num / den)|)| := by
            have hunit : (0 : ℚ) ≤ y.units / unitsInOne :=
              div_nonneg (Nat.cast_nonneg _) (Nat.cast_nonneg _)
            rw [habs, FiniteDouble.value_eq, abs_signed, abs_of_nonneg hunit]
        _ ≤ |(float y).value - signed negative (num / den)| := abs_abs_sub_abs_le _ _
  · rename_i hgrid
    refine .infinite ?_
    rw [habs, ← not_lt, ← roundUnits_lt_beyond_iff hden]
    exact fun hlt => hgrid ⟨hlt, Nat.mod_eq_zero_of_dvd (gap_dvd_roundUnits _ _)⟩

end Double
end Number
end Facets
