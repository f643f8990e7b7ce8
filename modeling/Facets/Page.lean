import Facets.Number.Arithmetic

namespace Facets

/-- A part of a list, and where it stands in the whole. -/
structure Page (α : Type) where
  items : List α
  totalPages : Int
  current : Int
  totalItems : Nat

namespace Page

/-- The number of pages: the quotient of the counts as a double, rounded up. -/
def count (items size : Nat) : Except Fault Int := do
  match ← Number.quotient items size with
  | .finite x => pure x.ceil
  | _ => .error .quotientBeyondDouble

/-- The page with a number, counted from zero, of a list that is cut into pages
of a size.  A number before the first or beyond the last page stands for that
page. -/
def of {α : Type} (items : List α) (number size : Int) : Except Fault (Page α) :=
  if size ≤ 0 then .error (.emptyPages size)
  else do
    let pages ← count items.length size.toNat
    let current := max 0 (min number (pages - 1))
    let start := current * size
    pure ⟨(items.drop start.toNat).take size.toNat, pages, current, items.length⟩

end Page
end Facets
