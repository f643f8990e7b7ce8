import Facets.Number.Double

/-
The shortest decimal that reads back as a given double.

A decimal is a number of steps of a power of ten.  On a coarse grid of steps no
neighbour of the double reads back as the double; the first grid on which one
does gives the fewest digits.  Reading back is `Double.ofDecimal`, so what is
found reads back by construction.
-/
namespace Facets
namespace Number

/-- A nonnegative decimal: so many steps of a power of ten. -/
structure Decimal where
  digits : Nat
  exponent : Int
  deriving DecidableEq, Repr

namespace FiniteDouble

/-- The decimal reads as the double's magnitude. -/
def readsBack (x : FiniteDouble) (digits : Nat) (exponent : Int) : Bool :=
  match Double.ofDecimal false digits exponent with
  | .finite y => y.units == x.units
  | _ => false

/-- The neighbour of the magnitude on the grid of one power of ten that reads
back: the nearer of the two when both do, the even one when they are equally
near. -/
def neighbour? (x : FiniteDouble) (exponent : Int) : Option Nat :=
  let num := if 0 ≤ exponent then x.units else x.units * Nat.pow 10 (-exponent).toNat
  let den := if 0 ≤ exponent then unitsInOne * Nat.pow 10 exponent.toNat else unitsInOne
  let low := num / den
  let near := divNearest num den
  let far := if near = low then low + 1 else low
  if x.readsBack near exponent then some near
  else if x.readsBack far exponent then some far
  else none

/-- A power of ten at least as great as the magnitude is at most two above this
one: a factor of two is a little more than 0.30103 decimal places. -/
def topExponent (x : FiniteDouble) : Int :=
  Int.fdiv (((x.units.log2 : Int) - 1074) * 30103) 100000 + 1

/-- The decimal of fewest digits that reads back as the magnitude.  Seventeen
digits always do, so the search down from `topExponent` ends within its
bound. -/
def shortest (x : FiniteDouble) : Decimal :=
  let exponents := (List.range 24).map fun (i : Nat) => x.topExponent - (i : Int)
  let found := exponents.findSome? fun e => (x.neighbour? e).map fun d => Decimal.mk d e
  found.getD ⟨0, 0⟩

end FiniteDouble
end Number
end Facets
