import Facets.Fault
import Facets.Number.Basic

/-
Totals and averages.  Integers add exactly for as long as only integers have
been met; the first double turns the running total into a double, and from
there on every addition is rounded.
-/
namespace Facets
namespace Number

namespace Double

/-- The sum of two finite doubles, rounded once.  An exact zero is positive
unless both terms are negative. -/
def addFinite (x y : FiniteDouble) : Double :=
  let total := x.scaled + y.scaled
  let negative := if total = 0 then x.negative && y.negative else total < 0
  round negative total.natAbs 1

def add : Double → Double → Double
  | .finite x, .finite y => addFinite x y
  | .nan k, _ => .nan k
  | _, .nan k => .nan k
  | .infinite s, .infinite t => if s = t then .infinite s else .nan 0
  | .infinite s, .finite _ => .infinite s
  | .finite _, .infinite s => .infinite s

/-- The double divided by a positive count that a double holds exactly. -/
def divCount (x : Double) (count : Nat) : Double :=
  match x with
  | .finite x => round x.negative x.units count
  | x => x

/-- The product with a natural number that a double holds exactly. -/
def scale (x : Double) (factor : Nat) : Double :=
  match x with
  | .finite x => round x.negative (x.units * factor) 1
  | x => x

/-- The double, when it is finite. -/
def orFault (x : Double) (fault : Fault) : Except Fault Double :=
  match x with
  | .finite x => .ok (.finite x)
  | _ => .error fault

/-- The greatest integer below a double.  What is not finite has none. -/
def floor (x : Double) : Except Fault Int :=
  match x with
  | .finite x => .ok x.floor
  | _ => .error .infiniteQuotient

end Double

/-- The double nearest to an integer, which fails beyond the finite doubles. -/
def double (n : Int) : Except Fault Double := (Double.ofInt n).orFault .integerBeyondDouble

/-- The quotient of two integers, rounded once.  The divisor is positive. -/
def quotient (n : Int) (d : Nat) : Except Fault Double :=
  (Double.ofRatio (n < 0) n.natAbs d).orFault .quotientBeyondDouble

end Number

namespace Amount

open Number

/-- The total so far and one more number. -/
def add : Amount → Number → Except Fault Amount
  | .int m, .int n => .ok (.int (m + n))
  | .int m, .float y => do
    let x ← double m
    pure (.float (x.add (.finite y)))
  | .float x, .int n => do
    let y ← double n
    pure (.float (x.add y))
  | .float x, .float y => .ok (.float (x.add (.finite y)))

/-- The sum of a list of numbers, from the left. -/
def sum (ns : List Number) : Except Fault Amount := ns.foldlM add (.int 0)

def average (total : Amount) (count : Nat) : Except Fault Double :=
  match total with
  | .int n => quotient n count
  | .float x => .ok (x.divCount count)

end Amount
end Facets
