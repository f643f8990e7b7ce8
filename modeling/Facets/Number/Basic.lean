import Facets.Number.Double

namespace Facets

/-- A number that records can be counted with: an integer of any size or a
finite double. -/
inductive Number
  | int (n : Int)
  | float (x : Number.FiniteDouble)
  deriving DecidableEq

namespace Number

/-- The value in units of `2 ^ -1074`.  Both forms of one value have the same
count of units, so comparison across the forms is exact. -/
def scaled : Number → Int
  | .int n => n * unitsInOne
  | .float x => x.scaled

/-- The order by value.  Equal values compare equal in either form. -/
def compare (a b : Number) : Ordering := Ord.compare a.scaled b.scaled

def below (a b : Number) : Bool := a.scaled < b.scaled

/-- The first of the least values, as a minimum that only a smaller value
displaces. -/
def least (first : Number) (rest : List Number) : Number :=
  rest.foldl (fun low n => if n.below low then n else low) first

/-- The first of the greatest values. -/
def greatest (first : Number) (rest : List Number) : Number :=
  rest.foldl (fun high n => if high.below n then n else high) first

end Number

/-- A bound or a total: an integer or any double. -/
inductive Amount
  | int (n : Int)
  | float (x : Number.Double)
  deriving DecidableEq

namespace Amount

open Number

def ofNumber : Number → Amount
  | .int n => .int n
  | .float x => .float (.finite x)

/-- The number, when the amount is an integer or a finite double. -/
def number? : Amount → Option Number
  | .int n => some (.int n)
  | .float (.finite x) => some (.float x)
  | .float _ => none

/-- A place on the line of numbers with both ends. -/
inductive Place
  | bottom
  | at (units : Int)
  | top
  deriving DecidableEq

/-- The place of an amount.  What is not a number has none. -/
def place? : Amount → Option Place
  | .int n => some (.at (n * unitsInOne))
  | .float (.finite x) => some (.at x.scaled)
  | .float (.infinite negative) => some (if negative then .bottom else .top)
  | .float (.nan _) => none

@[simp]
theorem place?_ofNumber (n : Number) : (ofNumber n).place? = some (.at n.scaled) := by
  cases n <;> rfl

/-- Strict order of places. -/
def Place.below : Place → Place → Bool
  | .bottom, .bottom => false
  | .bottom, _ => true
  | .at m, .at n => m < n
  | .at _, .top => true
  | .at _, .bottom => false
  | .top, _ => false

/-- Strictly below by value.  Nothing is below or above what is no number. -/
def below (a b : Amount) : Bool :=
  match a.place?, b.place? with
  | some p, some q => p.below q
  | _, _ => false

def atMost (a b : Amount) : Bool :=
  match a.place?, b.place? with
  | some p, some q => !q.below p
  | _, _ => false

end Amount
end Facets
