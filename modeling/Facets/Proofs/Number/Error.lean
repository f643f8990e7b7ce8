import Facets.Proofs.Number.Exact
import Mathlib.Data.Rat.Floor
import Mathlib.Tactic.FieldSimp
import Mathlib.Tactic.Linarith
import Mathlib.Tactic.Ring

/-
How far rounding to doubles moves a quotient.

Rounding moves a quotient by at most half a step of its grid
(`Double.abs_roundUnits_sub_le`), and below `2 ^ (k + 53)` units a step is at most
`2 ^ k` (`gap_le_two_pow`).  It does not move a quotient beyond a number that lies on
the grid (`Double.roundUnits_le_of_le`), and it makes zero of exactly those quotients
that are at most half a unit (`Double.roundUnits_eq_zero_iff`).  Only the ratio of the
two numbers matters (`Double.roundUnits_mul_right`).  Quotients of counts of up to 53
bits stay on their side of a whole number (`Double.lt_roundUnits_of_lt`).

A chain of operations on doubles that are not negative is followed by the units of each
step (`Double.IsUnits`).
-/
namespace Facets
namespace Number

variable {a d k n num den : Nat}

/-! ## Nearest numbers -/

theorem divNearest_mul_right (a d : Nat) (hk : 0 < k) :
    divNearest (a * k) (d * k) = divNearest a d := by
  have hlow : 2 * (a % d * k) < d * k ↔ 2 * (a % d) < d := by
    rw [← Nat.mul_assoc, Nat.mul_lt_mul_right hk]
  have hhigh : d * k < 2 * (a % d * k) ↔ d < 2 * (a % d) := by
    rw [← Nat.mul_assoc, Nat.mul_lt_mul_right hk]
  unfold divNearest
  simp only [Nat.mul_div_mul_right _ _ hk, Nat.mul_mod_mul_right, hlow, hhigh]

/-- A quotient is not rounded beyond a whole number. -/
theorem divNearest_le_of_le (hd : 0 < d) (h : a ≤ k * d) : divNearest a d ≤ k := by
  have hfloor : a / d ≤ k := Nat.div_le_of_le_mul (by rwa [Nat.mul_comm])
  rcases Nat.lt_or_eq_of_le hfloor with hlt | heq
  · rcases divNearest_eq_or a d with hnear | hnear <;> omega
  · -- The quotient is this number itself.
    have hdiv : a = k * d := Nat.le_antisymm h (heq ▸ Nat.div_mul_le_self a d)
    rw [hdiv, divNearest_mul_self k hd]

/-- A quotient is rounded to zero exactly when it is at most a half. -/
theorem divNearest_eq_zero_iff (hd : 0 < d) : divNearest a d = 0 ↔ 2 * a ≤ d := by
  constructor
  · intro hzero
    have hbounds := (two_mul_divNearest_bounds (a := a) hd).1
    rw [hzero] at hbounds
    omega
  · intro hle
    have hlt : a < d := by omega
    unfold divNearest
    simp only [Nat.div_eq_of_lt hlt, Nat.mod_eq_of_lt hlt]
    split
    · rfl
    · rw [if_neg (by omega)]
      rfl

/-! ## Steps of the grid -/

theorem gap_dvd_of_lt (h : n < 2 ^ (k + 53)) : gap n ∣ 2 ^ k := by
  have hlog : n.log2 - 52 ≤ k := by
    rcases Nat.eq_zero_or_pos n with rfl | hn
    · exact Nat.zero_le k
    · have hlt : n.log2 < k + 53 := (Nat.log2_lt hn.ne').mpr h
      omega
  exact Nat.pow_dvd_pow 2 hlog

theorem gap_le_two_pow (h : n < 2 ^ (k + 53)) : gap n ≤ 2 ^ k :=
  Nat.le_of_dvd (Nat.two_pow_pos k) (gap_dvd_of_lt h)

theorem gap_two_pow_dvd (e : Nat) : gap (2 ^ e) ∣ 2 ^ e := gap_dvd_two_pow Nat.log2_two_pow.le

/-- From `2 ^ 52` units on a step is a small part of the magnitude. -/
theorem gap_mul_two_pow_le (h : 2 ^ 52 ≤ n) : gap n * 2 ^ 52 ≤ n := by
  have hne : n ≠ 0 := by omega
  have hlog : 52 ≤ n.log2 := (Nat.le_log2 hne).mpr h
  calc gap n * 2 ^ 52 = 2 ^ (n.log2 - 52 + 52) := (Nat.pow_add 2 _ 52).symm
    _ = 2 ^ n.log2 := by rw [Nat.sub_add_cancel hlog]
    _ ≤ n := Nat.log2_self_le hne

namespace Double

/-- Only the ratio is rounded. -/
theorem roundUnits_mul_right (num den : Nat) (hk : 0 < k) :
    roundUnits (num * k) (den * k) = roundUnits num den := by
  have hden : den * k * gap (num / den) = den * gap (num / den) * k := by ring
  unfold roundUnits
  simp only [Nat.mul_div_mul_right _ _ hk, hden, divNearest_mul_right _ _ hk]

theorem two_mul_roundUnits_bounds (num : Nat) (hden : 0 < den) :
    2 * num ≤ 2 * roundUnits num den * den + den * gap (num / den) ∧
      2 * roundUnits num den * den ≤ 2 * num + den * gap (num / den) := by
  have hbounds := two_mul_divNearest_bounds (a := num) (Nat.mul_pos hden (gap_pos (num / den)))
  have hmul : 2 * roundUnits num den * den =
      2 * divNearest num (den * gap (num / den)) * (den * gap (num / den)) := by
    unfold roundUnits
    ring
  rwa [hmul]

/-- Rounding moves a quotient by at most half a step of its grid. -/
theorem abs_roundUnits_sub_le (hden : 0 < den) :
    |(roundUnits num den : ℚ) - num / den| ≤ gap (num / den) / 2 := by
  obtain ⟨hlow, hhigh⟩ := two_mul_roundUnits_bounds num hden
  have hpos : (0 : ℚ) < den := Nat.cast_pos.mpr hden
  have hlow' : (2 * num : ℚ) ≤ 2 * roundUnits num den * den + den * gap (num / den) := by
    exact_mod_cast hlow
  have hhigh' : (2 * roundUnits num den * den : ℚ) ≤ 2 * num + den * gap (num / den) := by
    exact_mod_cast hhigh
  have hcancel : (num / den : ℚ) * den = num := div_mul_cancel₀ _ hpos.ne'
  rw [abs_le]
  constructor
  · refine le_of_mul_le_mul_right ?_ hpos
    linarith
  · refine le_of_mul_le_mul_right ?_ hpos
    linarith

/-- A quotient is not rounded beyond a number that lies on its grid. -/
theorem roundUnits_le_of_le (hden : 0 < den) (h : num ≤ n * den) (hgrid : gap (num / den) ∣ n) :
    roundUnits num den ≤ n := by
  obtain ⟨m, rfl⟩ := hgrid
  have hstep : 0 < den * gap (num / den) := Nat.mul_pos hden (gap_pos _)
  have hnear : divNearest num (den * gap (num / den)) ≤ m := by
    refine divNearest_le_of_le hstep (h.trans_eq ?_)
    ring
  calc roundUnits num den ≤ m * gap (num / den) := Nat.mul_le_mul_right _ hnear
    _ = gap (num / den) * m := Nat.mul_comm _ _

/-- Below a power of two rounding moves a quotient by a fixed part of that power. -/
theorem abs_roundUnits_sub_le_two_pow (num k : Nat) (hden : 0 < den)
    (h : num / den < 2 ^ (k + 53)) :
    |(roundUnits num den : ℚ) - num / den| ≤ 2 ^ k / 2 := by
  have hgap : (gap (num / den) : ℚ) ≤ 2 ^ k := by exact_mod_cast gap_le_two_pow h
  exact (abs_roundUnits_sub_le hden).trans (div_le_div_of_nonneg_right hgap zero_le_two)

/-- Whole numbers of up to 53 bits lie on every grid below them, so a quotient is not
rounded beyond one. -/
theorem roundUnits_le_whole (hden : 0 < den) (hn : n ≤ 2 ^ 53)
    (h : num ≤ n * unitsInOne * den) : roundUnits num den ≤ n * unitsInOne := by
  refine roundUnits_le_of_le hden h ?_
  have hone : 2 ^ 1074 = unitsInOne := by decide +kernel
  have htop : 2 ^ 53 * unitsInOne = 2 ^ (1074 + 53) := by decide +kernel
  have hfloor : num / den ≤ n * unitsInOne :=
    Nat.div_le_of_le_mul (h.trans_eq (Nat.mul_comm _ _))
  have hle : n * unitsInOne ≤ 2 ^ (1074 + 53) := htop ▸ Nat.mul_le_mul_right unitsInOne hn
  rcases Nat.lt_or_eq_of_le (hfloor.trans hle) with hlt | heq
  · exact Dvd.dvd.mul_left (hone ▸ gap_dvd_of_lt hlt) n
  · -- The quotient is the greatest of these numbers itself.
    have hwhole : n * unitsInOne = 2 ^ (1074 + 53) := Nat.le_antisymm hle (heq ▸ hfloor)
    rw [heq, hwhole]
    exact gap_two_pow_dvd _

/-- Exactly the quotients of at most half a unit are rounded to zero. -/
theorem roundUnits_eq_zero_iff (hden : 0 < den) : roundUnits num den = 0 ↔ 2 * num ≤ den := by
  have hstep : 0 < gap (num / den) := gap_pos _
  have hzero : roundUnits num den = 0 ↔ 2 * num ≤ den * gap (num / den) := by
    rw [← divNearest_eq_zero_iff (Nat.mul_pos hden hstep), roundUnits, Nat.mul_eq_zero]
    exact or_iff_left hstep.ne'
  rw [hzero]
  constructor
  · intro hle
    rcases Nat.eq_zero_or_pos (num / den) with hfloor | hfloor
    · rwa [hfloor, show gap 0 = 1 from rfl, Nat.mul_one] at hle
    · -- A step is no greater than the magnitude, so it cannot be twice as great.
      have hgap : den * gap (num / den) ≤ num :=
        (Nat.mul_le_mul_left den (gap_le_self hfloor)).trans (Nat.mul_div_le num den)
      omega
  · intro hle
    exact hle.trans (Nat.le_mul_of_pos_right den hstep)

/-- A count of up to 53 bits has no quotient that is above a whole number and rounded
to it, unless that is zero. -/
theorem lt_roundUnits_of_lt (hden : 0 < den) (hnum : num ≤ 2 ^ 53) (h : n * den < num)
    (hzero : den < 2 * (num * unitsInOne)) :
    n * unitsInOne < roundUnits (num * unitsInOne) den := by
  rcases Nat.eq_zero_or_pos n with rfl | hn
  · rw [Nat.zero_mul, Nat.pos_iff_ne_zero, ne_eq, roundUnits_eq_zero_iff hden]
    omega
  · let step := gap (num * unitsInOne / den)
    let result := roundUnits (num * unitsInOne) den
    have hbound : 2 * (num * unitsInOne) ≤ 2 * (result * den) + den * step := by
      rw [← Nat.mul_assoc 2 result]
      exact (two_mul_roundUnits_bounds _ hden).1
    have hstep : den * step * 2 ^ 52 ≤ num * unitsInOne := by
      -- The quotient is at least one, so its step is small against it.
      have hone : unitsInOne ≤ num * unitsInOne / den := by
        rw [Nat.le_div_iff_mul_le hden, Nat.mul_comm]
        exact Nat.mul_le_mul_right _ ((Nat.le_mul_of_pos_left den hn).trans h.le)
      have hlarge : 2 ^ 52 ≤ unitsInOne := by decide +kernel
      rw [Nat.mul_assoc]
      exact (Nat.mul_le_mul_left den (gap_mul_two_pow_le (hlarge.trans hone))).trans
        (Nat.mul_div_le _ den)
    have habove : n * den * unitsInOne + unitsInOne ≤ num * unitsInOne := by
      rw [← Nat.succ_mul]
      exact Nat.mul_le_mul_right _ h
    have hbits : num * unitsInOne ≤ 2 ^ 53 * unitsInOne := Nat.mul_le_mul_right _ hnum
    by_contra hle
    have hbelow : result * den ≤ n * den * unitsInOne := by
      rw [Nat.mul_right_comm]
      exact Nat.mul_le_mul_right den (Nat.le_of_not_lt hle)
    -- Only a quotient in the middle of a step could be rounded so far, and this one is
    -- a whole number of steps.
    have hexact : num * unitsInOne = 2 ^ 52 * (den * step) := by omega
    have hresult : result = 2 ^ 52 * step := by
      show divNearest (num * unitsInOne) (den * step) * step = _
      rw [hexact, divNearest_mul_self _ (Nat.mul_pos hden (gap_pos _))]
    have hsame : result * den = num * unitsInOne := by
      rw [hresult, hexact]
      ring
    have hone := unitsInOne_pos
    omega

end Double

/-! ## Whole parts -/

namespace FiniteDouble

theorem fdiv_unitsInOne (n : Int) : Int.fdiv n unitsInOne = ⌊(n : ℚ) / unitsInOne⌋ := by
  rw [Rat.floor_intCast_div_natCast, Int.fdiv_eq_ediv_of_nonneg _ (Int.natCast_nonneg _)]

theorem floor_eq (x : FiniteDouble) : x.floor = ⌊(Number.float x).value⌋ :=
  fdiv_unitsInOne x.scaled

theorem ceil_eq (x : FiniteDouble) : x.ceil = ⌈(Number.float x).value⌉ := by
  rw [ceil, fdiv_unitsInOne, Int.cast_neg, neg_div, Int.floor_neg, neg_neg]
  rfl

end FiniteDouble

/-! ## Doubles that are not negative -/

namespace Double

/-- The finite double without a minus sign that has so many units. -/
def IsUnits (x : Double) (n : Nat) : Prop :=
  ∃ y : FiniteDouble, x = .finite y ∧ y.negative = false ∧ y.units = n

variable {x y : Double} {m : Nat}

theorem isUnits_round (h : InRange (num / den)) :
    IsUnits (round false num den) (roundUnits num den) :=
  exists_round false h

namespace IsUnits

theorem scaled_eq {y : FiniteDouble} (hsign : y.negative = false) : y.scaled = y.units := by
  rw [FiniteDouble.scaled, hsign]
  rfl

theorem scale (h : IsUnits x n) (hrange : InRange (n * k)) :
    IsUnits (x.scale k) (roundUnits (n * k) 1) := by
  obtain ⟨y, rfl, hsign, rfl⟩ := h
  rw [Double.scale, hsign]
  exact isUnits_round (by rwa [Nat.div_one])

theorem add (hx : IsUnits x m) (hy : IsUnits y n) (hrange : InRange (m + n)) :
    IsUnits (x.add y) (roundUnits (m + n) 1) := by
  obtain ⟨x, rfl, hxsign, rfl⟩ := hx
  obtain ⟨y, rfl, hysign, rfl⟩ := hy
  have htotal : x.scaled + y.scaled = ((x.units + y.units : Nat) : Int) := by
    rw [scaled_eq hxsign, scaled_eq hysign, Int.natCast_add]
  have hsign : (if x.scaled + y.scaled = 0 then x.negative && y.negative
      else decide (x.scaled + y.scaled < 0)) = false := by
    rw [hxsign, htotal, decide_eq_false (Int.natCast_nonneg _).not_gt]
    exact ite_self _
  unfold Double.add addFinite
  dsimp only
  rw [hsign, htotal, Int.natAbs_natCast]
  exact isUnits_round (by rwa [Nat.div_one])

theorem value_eq {y : FiniteDouble} (hsign : y.negative = false) :
    (Number.float y).value = (y.units : ℚ) / unitsInOne := by
  rw [value, scaled_eq hsign, Int.cast_natCast]

theorem floor (h : IsUnits x n) : x.floor = .ok ⌊(n : ℚ) / unitsInOne⌋ := by
  obtain ⟨y, rfl, hsign, rfl⟩ := h
  rw [Double.floor, FiniteDouble.floor_eq, value_eq hsign]

theorem exists_ceil (h : IsUnits x n) :
    ∃ y : FiniteDouble, x = .finite y ∧ y.ceil = ⌈(n : ℚ) / unitsInOne⌉ := by
  obtain ⟨y, rfl, hsign, rfl⟩ := h
  exact ⟨y, rfl, by rw [FiniteDouble.ceil_eq, value_eq hsign]⟩

theorem orFault (h : IsUnits x n) (fault : Fault) : x.orFault fault = .ok x := by
  obtain ⟨y, rfl, -, -⟩ := h
  rfl

end IsUnits
end Double

/-- A quotient of counts is a quotient of units. -/
theorem exists_quotient_eq (h : InRange (n * unitsInOne / d)) :
    ∃ x, quotient n d = .ok x ∧ x.IsUnits (Double.roundUnits (n * unitsInOne) d) := by
  have hunits := Double.isUnits_round h
  refine ⟨_, ?_, hunits⟩
  rw [quotient, Double.ofRatio, decide_eq_false (Int.natCast_nonneg n).not_gt, Int.natAbs_natCast]
  exact hunits.orFault _

end Number
end Facets
