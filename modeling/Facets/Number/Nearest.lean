namespace Facets
namespace Number

/-- The natural number nearest to `a / d`.  A quotient halfway between two
neighbours goes to the even one, so that ties have no drift. -/
def divNearest (a d : Nat) : Nat :=
  let q := a / d
  let r := a % d
  if 2 * r < d then q
  else if d < 2 * r then q + 1
  else if q % 2 = 0 then q
  else q + 1

/-- Rounding an exact quotient changes nothing. -/
theorem divNearest_mul_self (q : Nat) {d : Nat} (h : 0 < d) : divNearest (q * d) d = q := by
  simp [divNearest, Nat.mul_div_cancel q h, h]

/-- The nearest number is the floor of the quotient or its successor. -/
theorem divNearest_eq_or (a d : Nat) : divNearest a d = a / d ∨ divNearest a d = a / d + 1 := by
  unfold divNearest
  dsimp only
  split
  · exact .inl rfl
  · split
    · exact .inr rfl
    · split
      · exact .inl rfl
      · exact .inr rfl

/-- The nearest number is at most half a unit away. -/
theorem two_mul_divNearest_bounds {a d : Nat} (h : 0 < d) :
    2 * a ≤ 2 * divNearest a d * d + d ∧ 2 * divNearest a d * d ≤ 2 * a + d := by
  have hdiv : d * (a / d) + a % d = a := Nat.div_add_mod a d
  have hmod : a % d < d := Nat.mod_lt a h
  have hcomm : 2 * (a / d) * d = 2 * (d * (a / d)) := by
    rw [Nat.mul_assoc, Nat.mul_comm (a / d) d]
  have hsucc : 2 * (a / d + 1) * d = 2 * (d * (a / d)) + 2 * d := by
    rw [Nat.mul_add, Nat.add_mul, hcomm]
  unfold divNearest
  dsimp only
  split
  · omega
  · split
    · omega
    · split <;> omega

end Number
end Facets
