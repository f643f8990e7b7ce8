import Facets.Filter.Constraint
import Facets.Filter.Definition
import Facets.Journal
import Facets.Keep

/-
Filters over a collection.

A record is kept when every filter with a choice admits it.  A choice that is
empty, or a range that spans the data, demands nothing.
-/
namespace Facets

/-- What a filter leaves of a collection: the collection itself when nothing was
demanded, or some of its records. -/
inductive Selection
  | whole
  | part (kept : List Record)

def Selection.records (all : List Record) : Selection → List Record
  | .whole => all
  | .part kept => kept

abbrev FilterState := List (String × Value)

namespace Filter

open Journaled

/-- The non-empty values of a choice that may be several. -/
def chosenValues : Value → List Value
  | .set vs | .frozenSet vs | .list vs | .tuple vs => vs.filter fun v => !v.isEmpty
  | v => if v.isEmpty then [] else [v]

/-- A chosen value as it is compared: as the type of the field where it can be,
and as it is where it cannot. -/
def expected (k : Kind) (v : Value) : Except Fault Value := do
  let t ← k.coerce v
  pure ((t.map Typed.toValue).getD v)

def select (f : Field) (chosen : Value) : Except Fault (Option Constraint) :=
  if chosen.isEmpty then .ok none
  else if f.kind.isArray then do
    let target ← chosen.display
    pure (some (.holds f.key [target]))
  else do
    let v ← expected f.kind chosen
    pure (some (.equals f.key f.kind v))

def checkbox (f : Field) (chosen : Value) : Except Fault (Option Constraint) :=
  let values := chosenValues chosen
  if values.isEmpty then .ok none
  else if f.kind.isArray then do
    let targets ← values.mapM Value.display
    pure (some (.holds f.key targets))
  else do
    let vs ← values.mapM (expected f.kind)
    pure (some (.oneOf f.key f.kind vs))

/-- The demand of a choice of bounds.  Without data there is nothing to narrow,
and bounds that span the data do not narrow it. -/
def range (ranges : FieldRanges) (records : List Record) (f : Field) (chosen : Value) :
    Journaled (Option Constraint) := do
  match ← lift (Range.ofChoice chosen) with
  | none => pure none
  | some bounds =>
    match ← lift (dataRange ranges f.key records) with
    | none => do
      note .filters .debug ("Range filter on " ++ Text.quoted f.key ++ " skipped: no numeric data")
      pure none
    | some (low, high) =>
      if bounds.covers low high then pure none else pure (some (.within f.key bounds))

def text (f : Field) (chosen : Value) : Except Fault (Option Constraint) :=
  match chosen with
  | .null => .ok none
  | v => do
    let s ← v.display
    let query := Text.casefold s.toList
    pure (if query.isEmpty then none else some (.contains f.key f.kind query))

/-- What a filter with a chosen value demands, if anything. -/
def demand (ranges : FieldRanges) (records : List Record) (kind : FilterKind) (f : Field)
    (chosen : Value) : Journaled (Option Constraint) :=
  match kind with
  | .select => lift (select f chosen)
  | .checkbox => lift (checkbox f chosen)
  | .range => range ranges records f chosen
  | .text => lift (text f chosen)

/-- What the usable filters with a choice demand, in order. -/
def demands (s : Schema) (state : FilterState) (ranges : FieldRanges) (records : List Record) :
    List FilterDefinition → Journaled (List Constraint)
  | [] => pure []
  | d :: ds =>
    match s.field? d.field, Assoc.find? (· == ·) d.field state with
    | some f, some chosen => do
      let c ← demand ranges records d.kind f chosen
      let cs ← demands s state ranges records ds
      pure (c.toList ++ cs)
    | _, _ => demands s state ranges records ds

def noteSkipped : List Issue → Journaled Unit
  | [] => pure ()
  | issue :: rest => do
    note .filters .warning ("Skipping filter: " ++ issue.message)
    noteSkipped rest

/-- Narrow a collection.  Bounds of fields that `ranges` does not list come from
the records. -/
def apply (s : Schema) (ds : List FilterDefinition) (state : FilterState) (ranges : FieldRanges)
    (records : List Record) : Journaled Selection := do
  noteSkipped (s.filterIssues ds)
  let cs ← demands s state ranges records (s.usableFilters ds)
  if cs.isEmpty then pure .whole
  else do
    let kept ← lift (keepWhere (fun r => Constraint.admitsAll r cs) records)
    note .filters .debug
      s!"Filtered {records.length} -> {kept.length} records with {cs.length} active filters"
    pure (.part kept)

def activeCount (s : Schema) (ds : List FilterDefinition) (state : FilterState)
    (ranges : FieldRanges) (records : List Record) : Journaled Nat := do
  let cs ← demands s state ranges records (s.usableFilters ds)
  pure cs.length

end Filter
end Facets
