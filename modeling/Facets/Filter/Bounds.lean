import Facets.Schema

/-
Bounds: those that a user chooses, and those of the data.
-/
namespace Facets

def numbersOf (key : String) (records : List Record) : Except Fault (List Number) := do
  let read ← records.mapM fun r => (r.field key).asNumber
  pure (read.filterMap id)

/-- Bounds that hold one more number.  Only a smaller or a greater number displaces a
bound. -/
def widen (data : Option (Number × Number)) (n : Number) : Option (Number × Number) :=
  match data with
  | none => some (n, n)
  | some (low, high) => some (if n.below low then n else low, if high.below n then n else high)

def fieldRange (key : String) (records : List Record) : Except Fault (Option (Number × Number)) :=
  records.foldlM (fun data r => do
    let n ← (r.field key).asNumber
    pure (n.elim data (widen data))) none

/-- Data bounds by field; none where a field has no numbers. -/
abbrev FieldRanges := List (String × Option (Amount × Amount))

/-- Bounds that are numbers as bounds that may be anything. -/
def amountRange (r : Number × Number) : Amount × Amount :=
  (.ofNumber r.1, .ofNumber r.2)

/-- The data bounds of a field: the given ones if the field is listed, and
otherwise those of the records. -/
def dataRange (ranges : FieldRanges) (key : String) (records : List Record) :
    Except Fault (Option (Amount × Amount)) :=
  match Assoc.find? (· == ·) key ranges with
  | some r => .ok r
  | none => do
    let r ← fieldRange key records
    pure (r.map amountRange)

namespace Range

/-- A range with at least one bound. -/
def bounded? (r : Range) : Option Range :=
  if r.min.isNone && r.max.isNone then none else some r

def between (low high : Value) : Except Fault (Option Range) := do
  let low ← low.asNumber
  let high ← high.asNumber
  pure (bounded? ⟨low.map .ofNumber, high.map .ofNumber⟩)

/-- The range that a chosen value stands for: a range, the two bounds by name,
or a pair of bounds. -/
def ofChoice (v : Value) : Except Fault (Option Range) :=
  match v with
  | .range r => .ok r.bounded?
  | .dict ps => between ((Value.valueAt? "min" ps).getD .null) ((Value.valueAt? "max" ps).getD .null)
  | .list [low, high] | .tuple [low, high] => between low high
  | _ => .ok none

end Range
end Facets
