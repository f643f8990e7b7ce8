import Facets.Number.Basic

namespace Facets

/-- Inclusive numeric bounds.  A side without a bound is open. -/
structure Range where
  min : Option Amount
  max : Option Amount
  deriving DecidableEq

namespace Range

def contains (r : Range) (a : Amount) : Bool :=
  !(r.min.any fun low => a.below low) && !(r.max.any fun high => high.below a)

def covers (r : Range) (lower upper : Amount) : Bool :=
  r.min.all (fun low => low.atMost lower) && r.max.all (fun high => upper.atMost high)

end Range
end Facets
