import Facets.Number.Nearest

/-
Binary numbers with 53 significant bits, as exact integers.

Every finite double is a whole number of *units* of `2 ^ -1074`, the least
positive double, so a finite double is a sign and a count of units that lies on
the grid of its magnitude.  Order is then the order of integers, and every
operation is one exact integer result rounded once by `Double.round`.
-/
namespace Facets
namespace Number

/-- The number of units in the number one. -/
def unitsInOne : Nat := Nat.pow 2 1074

/-- The distance between neighbouring doubles at a magnitude of `n` units: one
unit up to 53 bits, and twice as much for every further bit. -/
def gap (n : Nat) : Nat := Nat.pow 2 (n.log2 - 52)

/-- The first magnitude beyond every finite double, `2 ^ 1024`, in units. -/
def beyond : Nat := Nat.pow 2 2098

/-- A magnitude of `n` units is that of a finite double. -/
def OnGrid (n : Nat) : Prop := n < beyond ∧ n % gap n = 0

instance (n : Nat) : Decidable (OnGrid n) := inferInstanceAs (Decidable (_ ∧ _))

/-- A finite double.  Zero has both signs. -/
structure FiniteDouble where
  negative : Bool
  units : Nat
  onGrid : OnGrid units
  deriving DecidableEq

namespace FiniteDouble

/-- The value in units, as a signed integer.  Both zeros have value zero. -/
def scaled (x : FiniteDouble) : Int :=
  if x.negative then -(x.units : Int) else (x.units : Int)

def isIntegral (x : FiniteDouble) : Bool := x.units % unitsInOne == 0

/-- The integer between the value and zero that is nearest to the value. -/
def truncate (x : FiniteDouble) : Int :=
  let n := x.units / unitsInOne
  if x.negative then -(n : Int) else (n : Int)

def floor (x : FiniteDouble) : Int := Int.fdiv x.scaled unitsInOne

def ceil (x : FiniteDouble) : Int := -Int.fdiv (-x.scaled) unitsInOne

end FiniteDouble

/-- A double: finite, infinite or not a number.  Two values that are not a
number are told apart by their occurrence, which only identity looks at: by
value such a double equals nothing, itself included. -/
inductive Double
  | finite (x : FiniteDouble)
  | infinite (negative : Bool)
  | nan (occurrence : Nat)
  deriving DecidableEq

namespace Double

/-- The magnitude in units that `num / den` units round to: the nearest
multiple of the gap at that magnitude, a tie going to the even multiple. -/
def roundUnits (num den : Nat) : Nat :=
  let step := gap (num / den)
  divNearest num (den * step) * step

/-- The double nearest to `num / den` units, infinite when that lies beyond the
finite doubles. -/
def round (negative : Bool) (num den : Nat) : Double :=
  let n := roundUnits num den
  if h : OnGrid n then .finite ⟨negative, n, h⟩ else .infinite negative

def ofRatio (negative : Bool) (num den : Nat) : Double :=
  round negative (num * unitsInOne) den

def ofInt (n : Int) : Double := ofRatio (n < 0) n.natAbs 1

def ofDecimal (negative : Bool) (digits : Nat) (exponent : Int) : Double :=
  if 0 ≤ exponent then
    ofRatio negative (digits * Nat.pow 10 exponent.toNat) 1
  else
    ofRatio negative digits (Nat.pow 10 (-exponent).toNat)

def finite? : Double → Option FiniteDouble
  | .finite x => some x
  | _ => none

end Double

end Number
end Facets
