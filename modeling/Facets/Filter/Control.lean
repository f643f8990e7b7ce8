import Facets.Filter.Bounds
import Facets.Filter.Definition
import Facets.Value.Key

/-
What the controls of filters offer: the values and the bounds of the data.
-/
namespace Facets

/-- The values of a field one by one: the items of a list, or the value
itself. -/
def fieldItems (key : String) (r : Record) : List Value :=
  let v := r.field key
  v.items?.getD [v]

/-- The order of listed values: by their fold, then by their text. -/
def listedBefore (a b : String) : Bool :=
  let order := (compare (Text.casefold a.toList) (Text.casefold b.toList)).then
    (compare a.toList b.toList)
  order != .gt

/-- The different values of a field that can be keys, in the order of their
texts.  Values of one text keep the order in which they were first met. -/
def uniqueValues (key : String) (records : List Record) : Except Fault (List Value) := do
  let items := records.flatMap (fieldItems key)
  let found := Value.distinct (items.filter fun v => !v.isEmpty && v.isKey)
  let listed ← found.mapM fun v => do
    let text ← v.display
    pure (text, v)
  pure ((listed.mergeSort fun p q => listedBefore p.1 q.1).map (·.2))

/-- The values to choose from by field, for the usable filters that have a list.
Values of the definition win over values of the data, and the first definition
for a field over later ones. -/
def fieldOptions (s : Schema) (ds : List FilterDefinition) (records : List Record) :
    Except Fault (List (String × List Value)) :=
  (s.usableFilters ds).foldlM (fun kept d => do
    if !d.kind.hasOptions || (kept.any fun p => p.1 == d.field) then pure kept
    else
      match d.options with
      | some (o :: os) => pure (kept ++ [(d.field, (o :: os).map .text)])
      | _ => do
        let values ← uniqueValues d.field records
        pure (kept ++ [(d.field, values)])) []

def fieldRanges (s : Schema) (ds : List FilterDefinition) (records : List Record) :
    Except Fault (List (String × Option (Number × Number))) :=
  ((s.usableFilters ds).filter fun d => d.kind == .range).foldlM (fun kept d => do
    let r ← fieldRange d.field records
    pure (Assoc.put (· == ·) d.field r kept)) []

end Facets
