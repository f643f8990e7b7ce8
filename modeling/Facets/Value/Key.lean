import Facets.Text.Casefold
import Facets.Value.Display
import Facets.Value.Equality

/-
Group keys.

The key of a value is one that can be compared and kept: lists become tuples,
mappings their sorted entries, sets unchangeable sets, and booleans keys of
their own.  Values that are one up to these changes have one key.
-/
namespace Facets
namespace Value

/-- Entries in the order of their names; entries of one name keep their order. -/
def sortEntries (entries : List (String × Value)) : List (String × Value) :=
  entries.mergeSort fun p q => p.1 ≤ q.1

mutual

/-- The key of a value that is part of another. -/
def keyPart : Value → Except Fault Value
  | .bool b => .ok (.boolKey b)
  | .list items => do
    let parts ← keyParts items
    pure (.tuple parts)
  | .tuple items => do
    let parts ← keyParts items
    pure (.tuple parts)
  | .dict entries => do
    let parts ← keyEntries entries
    pure (.mappingKey (sortEntries parts))
  | .set items => do
    let parts ← keyParts items
    pure (.frozenSet (distinct parts))
  | .frozenSet items => do
    let parts ← keyParts items
    pure (.frozenSet (distinct parts))
  | .null => .ok .null
  | .int n => .ok (.int n)
  | .float x => .ok (.float x)
  | .text s => .ok (.text s)
  | .dateTime l p => .ok (.dateTime l p)
  | .date d => .ok (.date d)
  | .boolKey b => .ok (.boolKey b)
  | .mappingKey entries =>
    if isKey (.mappingKey entries) then .ok (.mappingKey entries)
    else do
      let written ← quoted (.mappingKey entries)
      pure (.text written)
  | .bytes latin => .ok (.text (bytesNotation latin))
  | .range r => do
    let written ← quoted (.range r)
    pure (.text written)

def keyParts : List Value → Except Fault (List Value)
  | [] => .ok []
  | v :: vs => do
    let part ← keyPart v
    let parts ← keyParts vs
    pure (part :: parts)

def keyEntries : List (Value × Value) → Except Fault (List (String × Value))
  | [] => .ok []
  | (k, v) :: ps => do
    let name ← k.display
    let part ← keyPart v
    let parts ← keyEntries ps
    pure ((name, part) :: parts)

end

theorem keyParts_eq_mapM (items : List Value) : keyParts items = items.mapM keyPart := by
  induction items with
  | nil => rfl
  | cons v vs ih => rw [keyParts, List.mapM_cons, ih]

theorem keyEntries_eq_mapM (entries : List (Value × Value)) :
    keyEntries entries = entries.mapM (fun p => p.1.display >>= fun name =>
      p.2.keyPart >>= fun part => pure (name, part)) := by
  induction entries with
  | nil => rfl
  | cons p ps ih =>
    rw [keyEntries, List.mapM_cons, ih]
    simp only [bind_assoc, pure_bind]

/-- The group key of a stored value.  Everything empty has the null key. -/
def groupKey (v : Value) : Except Fault Value := if v.isEmpty then .ok .null else keyPart v

mutual

def keyText : Value → Except Fault String
  | .null => .ok ""
  | .boolKey b => .ok (if b then "true" else "false")
  | .mappingKey entries => do
    let parts ← keyTextEntries entries
    pure (String.intercalate ", " parts)
  | .tuple items => do
    let parts ← keyTexts items
    pure (String.intercalate ", " parts)
  | .frozenSet items => do
    let parts ← keyTexts items
    pure (String.intercalate ", " (parts.mergeSort fun s t => s ≤ t))
  | v => v.display

def keyTexts : List Value → Except Fault (List String)
  | [] => .ok []
  | v :: vs => do
    let part ← keyText v
    let parts ← keyTexts vs
    pure (part :: parts)

def keyTextEntries : List (String × Value) → Except Fault (List String)
  | [] => .ok []
  | (name, v) :: ps => do
    let part ← keyText v
    let parts ← keyTextEntries ps
    pure ((name ++ ": " ++ part) :: parts)

end

theorem keyTexts_eq_mapM (items : List Value) : keyTexts items = items.mapM keyText := by
  induction items with
  | nil => rfl
  | cons v vs ih => rw [keyTexts, List.mapM_cons, ih]

theorem keyTextEntries_eq_mapM (entries : List (String × Value)) :
    keyTextEntries entries = entries.mapM (fun p => p.2.keyText >>= fun part =>
      pure (p.1 ++ ": " ++ part)) := by
  induction entries with
  | nil => rfl
  | cons p ps ih =>
    rw [keyTextEntries, List.mapM_cons, ih]
    simp only [bind_assoc, pure_bind]

def noValueLabel : String := "(no value)"

def groupLabel : Value → Except Fault String
  | .null => .ok noValueLabel
  | key => key.keyText

end Value
end Facets
