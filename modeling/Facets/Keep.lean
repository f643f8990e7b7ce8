import Facets.Fault

namespace Facets

/-- The items for which a test that may fail holds, in order.  The first fault
ends the search. -/
def keepWhere {α : Type} (test : α → Except Fault Bool) : List α → Except Fault (List α)
  | [] => .ok []
  | a :: rest => do
    let keep ← test a
    let kept ← keepWhere test rest
    pure (if keep then a :: kept else kept)

end Facets
