import Facets.Proofs.Number.Error
import Facets.Proofs.Outcome
import Facets.Statistics.Basic
import Mathlib.Data.Nat.Cast.Field
import Mathlib.Tactic.Positivity

/-
Shares in whole percent.

A share is rounded three times on its way to a whole percent: the quotient, the
percentage, and the percentage and a half.  Together these roundings move it by less
than `2 ^ -45` (`Statistics.abs_raised_sub_le`), so it is rounded half up unless it
lies that near to a half.  Halves themselves depend on nothing but the ratio
(`Statistics.percentage_mul`), so there are one hundred of them to look at, and four
of them come out one percent too low (`Statistics.percentage_half`).
-/
namespace Facets
namespace Statistics

open Outcome Number Number.Double

/-- The share rounded half up to a whole percent: the floor of the percentage and a
half. -/
def exactShare (count total : Int) : Int := (200 * count + total) / (2 * total)

/-- The percents that a half just below them is not rounded up to. -/
def heldBack : List Int := [15, 29, 57, 58]

/-! ## The three roundings -/

/-- The share in percent and a half, in units, after each step was rounded. -/
def raised (count total : Nat) : Nat :=
  roundUnits (roundUnits (roundUnits (count * unitsInOne) total * 100) 1 + unitsInOne / 2) 1

variable {count total : Nat}

theorem exact_le (h : count ≤ total) : count * unitsInOne / total ≤ unitsInOne :=
  Nat.div_le_of_le_mul (Nat.mul_le_mul_right unitsInOne h)

/-- Half of a percent is a double. -/
theorem isUnits_half : (ofRatio false 1 2).IsUnits (unitsInOne / 2) := by
  have hunits : roundUnits (1 * unitsInOne) 2 = unitsInOne / 2 := by decide +kernel
  exact hunits ▸ isUnits_round (inRange_thousand.of_le (by omega))

theorem quotient_le (h : count ≤ total) (hpos : 0 < total) :
    roundUnits (count * unitsInOne) total ≤ unitsInOne := by
  have hexact : count * unitsInOne ≤ 1 * unitsInOne * total := by
    rw [Nat.one_mul, Nat.mul_comm]
    exact Nat.mul_le_mul_left unitsInOne h
  have hle := roundUnits_le_whole hpos (by decide) hexact
  rwa [Nat.one_mul] at hle

theorem percent_le (h : count ≤ total) (hpos : 0 < total) :
    roundUnits (roundUnits (count * unitsInOne) total * 100) 1 ≤ 100 * unitsInOne := by
  refine roundUnits_le_whole Nat.one_pos (by decide) ?_
  have hle := quotient_le h hpos
  omega

/-- A share is the whole part of the percentage and a half as rounded. -/
theorem percentage_eq (h : count ≤ total) (hpos : 0 < total) :
    percentage count total = .ok ⌊(raised count total : ℚ) / unitsInOne⌋ := by
  have hrange : ∀ n ≤ 1000 * unitsInOne, InRange n := fun n hn => inRange_thousand.of_le hn
  have hexact := exact_le h
  have hquotient := quotient_le h hpos
  have hpercent := percent_le h hpos
  obtain ⟨x, hx, hunits⟩ := exists_quotient_eq (hrange (count * unitsInOne / total) (by omega))
  have hraised := ((hunits.scale (k := 100) (hrange _ (by omega))).add isUnits_half
    (hrange _ (by omega))).floor
  rw [percentage, if_neg (by omega), Int.toNat_natCast, hx, ok_bind]
  exact hraised

/-! ## How far a share is moved -/

/-- How far each of the three roundings moves a share, by the part `2 ^ -53` of one. -/
theorem abs_roundings_sub_le (h : count ≤ total) (hpos : 0 < total) :
    ∃ e : ℚ, 0 < e ∧ (unitsInOne : ℚ) = 2 ^ 53 * e ∧
      |(raised count total : ℚ) - (100 * (count * unitsInOne / total) + unitsInOne / 2)| ≤
        228 * e := by
  obtain ⟨k, hk⟩ : ∃ k, unitsInOne = 2 ^ 53 * 2 ^ k := ⟨1021, by decide +kernel⟩
  have hexact := exact_le h
  have hquotient := quotient_le h hpos
  have hpercent := percent_le h hpos
  have hlow : 2 ^ (k + 1 + 53) = 2 * unitsInOne := by rw [hk]; ring
  have hhigh : 2 ^ (k + 7 + 53) = 128 * unitsInOne := by rw [hk]; ring
  have hone := unitsInOne_pos
  have hhalf : ((unitsInOne / 2 : Nat) : ℚ) = unitsInOne / 2 :=
    Nat.cast_div ⟨2 ^ 52 * 2 ^ k, by rw [hk]; ring⟩ two_ne_zero
  obtain ⟨hlow₁, hhigh₁⟩ := abs_le.mp <|
    abs_roundUnits_sub_le_two_pow (count * unitsInOne) (k + 1) hpos (by omega)
  obtain ⟨hlow₂, hhigh₂⟩ := abs_le.mp <| abs_roundUnits_sub_le_two_pow
    (roundUnits (count * unitsInOne) total * 100) (k + 7) Nat.one_pos (by omega)
  obtain ⟨hlow₃, hhigh₃⟩ := abs_le.mp <| abs_roundUnits_sub_le_two_pow
    (roundUnits (roundUnits (count * unitsInOne) total * 100) 1 + unitsInOne / 2) (k + 7)
    Nat.one_pos (by omega)
  push_cast [hhalf, pow_add] at hlow₁ hhigh₁ hlow₂ hhigh₂ hlow₃ hhigh₃
  refine ⟨2 ^ k, by positivity, by exact_mod_cast hk, abs_le.mpr ⟨?_, ?_⟩⟩
  · rw [raised]
    linarith
  · rw [raised]
    linarith

/-- The three roundings together move a share by less than `2 ^ -45` percent. -/
theorem abs_raised_sub_le (h : count ≤ total) (hpos : 0 < total) :
    |(raised count total : ℚ) / unitsInOne - (100 * count / total + 1 / 2)| ≤ 228 / 2 ^ 53 := by
  obtain ⟨e, he, hone, hle⟩ := abs_roundings_sub_le h hpos
  have hpos' : (0 : ℚ) < unitsInOne := unitsInOne_cast_pos
  have hsub : ∀ one : ℚ, one ≠ 0 →
      (raised count total : ℚ) / one - (100 * count / total + 1 / 2) =
        (raised count total - (100 * (count * one / total) + one / 2)) / one := by
    intro one hne
    field_simp
  rw [hsub _ hpos'.ne', abs_div, abs_of_pos hpos', div_le_iff₀ hpos']
  refine hle.trans_eq ?_
  rw [hone]
  ring

/-! ## Halves -/

/-- A share depends on the ratio of the two counts alone. -/
theorem percentage_mul (h : count ≤ total) (hpos : 0 < total) {k : Nat} (hk : 0 < k) :
    percentage (count * k : Nat) (total * k : Nat) = percentage count total := by
  have hraised : raised (count * k) (total * k) = raised count total := by
    unfold raised
    rw [Nat.mul_right_comm, roundUnits_mul_right _ _ hk]
  rw [percentage_eq h hpos, percentage_eq (Nat.mul_le_mul_right k h) (Nat.mul_pos hpos hk), hraised]

/-- The hundred halves. -/
theorem percentage_half {r : Nat} (hr : r < 100) :
    percentage (2 * r + 1 : Nat) 200 =
      .ok (if ((r + 1 : Nat) : Int) ∈ heldBack then r else (r + 1 : Nat)) := by
  have htable : ∀ r < 100, raised (2 * r + 1) 200 / unitsInOne =
      if ((r + 1 : Nat) : Int) ∈ heldBack then r else r + 1 := by decide +kernel
  have hfloor : ⌊(raised (2 * r + 1) 200 : ℚ) / unitsInOne⌋ =
      ((raised (2 * r + 1) 200 / unitsInOne : Nat) : Int) := by
    rw [Rat.floor_natCast_div_natCast, Int.natCast_div]
  have hshare : percentage (2 * r + 1 : Nat) (200 : Nat) =
      .ok ⌊(raised (2 * r + 1) 200 : ℚ) / unitsInOne⌋ := percentage_eq (by omega) (by decide)
  rw [hfloor, htable r hr, apply_ite Nat.cast] at hshare
  exact hshare

/-- A half is rounded up unless the percent above it is held back. -/
theorem percentage_of_halfway (h : count ≤ total) (hpos : 0 < total)
    (hhalf : (2 * total : Int) ∣ 200 * count + total) :
    percentage count total = .ok (if exactShare count total ∈ heldBack
      then exactShare count total - 1 else exactShare count total) := by
  obtain ⟨r, hr⟩ : 2 * total ∣ 200 * count + total := by exact_mod_cast hhalf
  obtain ⟨m, rfl⟩ : ∃ m, r = m + 1 := Nat.exists_eq_succ_of_ne_zero (by
    rintro rfl
    omega)
  have hratio : count * 200 = (2 * m + 1) * total := by
    rw [Nat.mul_add] at hr
    linarith
  have hm : m < 100 := by
    have hle : (2 * m + 1) * total ≤ 200 * total := by omega
    have := Nat.le_of_mul_le_mul_right hle hpos
    omega
  have hexact : exactShare count total = (m + 1 : Nat) :=
    Int.ediv_eq_of_eq_mul_right (by omega) (by exact_mod_cast hr)
  have htotal : ((200 * total : Nat) : Int) = (total * 200 : Nat) := by rw [Nat.mul_comm]
  rw [← percentage_mul h hpos (k := 200) (by decide), hratio, ← htotal]
  rw [percentage_mul (by omega) (by decide) hpos, Nat.cast_ofNat, percentage_half hm, hexact,
    Nat.cast_succ, add_sub_cancel_right]

/-! ## The nearest whole percent -/

/-- What is close to a quotient that is no whole number has its whole part, if the
divisor is not too great. -/
theorem floor_eq_ediv_of_close {x : ℚ} {n d : Int} (hd : 0 < d) (hsmall : d < 2 ^ 45)
    (hdvd : ¬ d ∣ n) (hx : |x - n / d| ≤ 228 / 2 ^ 53) : ⌊x⌋ = n / d := by
  obtain ⟨hlow, hhigh⟩ := abs_le.mp hx
  have hd' : (0 : ℚ) < d := Int.cast_pos.mpr hd
  have hrest : 1 ≤ n % d ∧ n % d ≤ d - 1 := by
    have hne : n % d ≠ 0 := fun hzero => hdvd (Int.dvd_of_emod_eq_zero hzero)
    have hnonneg := Int.emod_nonneg n hd.ne'
    have hlt := Int.emod_lt_of_pos n hd
    omega
  have hsplit : (n : ℚ) / d = (n / d : Int) + (n % d : Int) / d := by
    have hn : (n : ℚ) = d * (n / d : Int) + (n % d : Int) := by
      exact_mod_cast (Int.mul_ediv_add_emod n d).symm
    rw [hn, add_div, mul_div_cancel_left₀ _ hd'.ne']
  -- Both ends of the whole part are farther away than the quotient was moved.
  have hstep : (1 / 2 ^ 45 : ℚ) < 1 / d :=
    one_div_lt_one_div_of_lt hd' (by exact_mod_cast hsmall)
  have hfirst : (1 / d : ℚ) ≤ (n % d : Int) / d :=
    div_le_div_of_nonneg_right (by exact_mod_cast hrest.1) hd'.le
  have hlast : ((n % d : Int) / d : ℚ) ≤ 1 - 1 / d := by
    rw [le_sub_iff_add_le, ← add_div, div_le_one hd']
    have hle : n % d + 1 ≤ d := by omega
    exact_mod_cast hle
  rw [Int.floor_eq_iff]
  constructor <;> linarith

/-- A share is rounded to the nearest whole percent, as far as three roundings to
doubles can tell which one that is. -/
theorem percentage_roundsHalfUp {count total : Int} (hcount : 0 ≤ count) (hle : count ≤ total)
    (hpos : 0 < total) :
    ∃ p, percentage count total = .ok p ∧ 0 ≤ p ∧ p ≤ 100 ∧
      |(p : ℚ) - 100 * count / total| ≤ 1 / 2 + 1 / 2 ^ 45 ∧
      (2 * total ∣ 200 * count + total → p =
        if exactShare count total ∈ heldBack then exactShare count total - 1
        else exactShare count total) ∧
      (¬ 2 * total ∣ 200 * count + total → total < 2 ^ 44 → p = exactShare count total) := by
  lift total to Nat using by omega
  lift count to Nat using hcount
  have hle := Int.ofNat_le.mp hle
  have hpos := Int.natCast_pos.mp hpos
  have hclose := abs_raised_sub_le hle hpos
  obtain ⟨hlow, hhigh⟩ := abs_le.mp hclose
  have hpos' : (0 : ℚ) < total := Nat.cast_pos.mpr hpos
  have hshare : (100 * count / total : ℚ) ≤ 100 := by
    rw [div_le_iff₀ hpos']
    exact_mod_cast Nat.mul_le_mul_left 100 hle
  have hfloor := Int.floor_le ((raised count total : ℚ) / unitsInOne)
  have hceil := Int.lt_floor_add_one ((raised count total : ℚ) / unitsInOne)
  refine ⟨_, percentage_eq hle hpos, ?_, ?_, ?_, fun hhalf => ?_, fun hhalf hsmall => ?_⟩
  · exact Int.floor_nonneg.mpr (div_nonneg (Nat.cast_nonneg _) unitsInOne_cast_pos.le)
  · rw [← Int.lt_add_one_iff, Int.floor_lt]
    push_cast
    linarith
  · rw [Int.cast_natCast, Int.cast_natCast, abs_le]
    constructor <;> linarith
  · have hup := percentage_of_halfway hle hpos hhalf
    rw [percentage_eq hle hpos] at hup
    exact Except.ok.inj hup
  · have hsum : ((200 * count + total : Int) : ℚ) / ((2 * total : Int) : ℚ) =
        100 * count / total + 1 / 2 := by
      push_cast
      field_simp
      ring
    refine floor_eq_ediv_of_close (by omega) (by omega) hhalf ?_
    rwa [hsum]

/-- 57.5 percent stay below the half, two thirds are rounded up. -/
theorem percentage_roundsHalfUp_fractions :
    ((0 : Int) ≤ 23 ∧ (23 : Int) ≤ 40 ∧ (2 * 40 : Int) ∣ 200 * 23 + 40 ∧
      exactShare 23 40 = 58 ∧ percentage 23 40 = .ok 57) ∧
    ((0 : Int) ≤ 2 ∧ (2 : Int) ≤ 3 ∧ ¬ (2 * 3 : Int) ∣ 200 * 2 + 3 ∧
      exactShare 2 3 = 67 ∧ percentage 2 3 = .ok 67) := by
  have hhalf : (2 * 40 : Int) ∣ 200 * 23 + 40 := by decide
  have hthirds : ¬ (2 * 3 : Int) ∣ 200 * 2 + 3 := by decide
  obtain ⟨p, hp, -, -, -, hdown, -⟩ :=
    percentage_roundsHalfUp (show (0 : Int) ≤ 23 by decide) (show (23 : Int) ≤ 40 by decide)
      (by decide)
  obtain ⟨q, hq, -, -, -, -, hup⟩ :=
    percentage_roundsHalfUp (show (0 : Int) ≤ 2 by decide) (show (2 : Int) ≤ 3 by decide)
      (by decide)
  have hp57 : p = 57 := hdown hhalf
  have hq67 : q = 67 := hup hthirds (by decide)
  exact ⟨⟨by decide, by decide, hhalf, by decide, hp57 ▸ hp⟩,
    by decide, by decide, hthirds, by decide, hq67 ▸ hq⟩

/-- 29 of 200 are 14.5 percent, which is not rounded up. -/
theorem not_percentage_roundsHalfUp_of_half :
    ¬ ∀ count total : Int, 0 ≤ count → count ≤ total → 0 < total →
      percentage count total = .ok ((200 * count + total) / (2 * total)) := by
  intro h
  have hup : percentage 29 200 = .ok 15 := h 29 200 (by decide) (by decide) (by decide)
  have hdown : percentage 29 200 = .ok 14 := gives_iff.mp (by decide +kernel)
  cases hup.symm.trans hdown

end Statistics
end Facets
