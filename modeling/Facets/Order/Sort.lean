import Facets.Issue
import Facets.Journal
import Facets.Order.Rank
import Facets.Schema

/-
Records in the order of a field.

Records without a usable value go last, in their order, whichever the direction.
The others are sorted stably, so records of one rank keep their order in both
directions.
-/
namespace Facets

structure SortKey where
  field : String
  descending : Bool
  deriving DecidableEq

def Schema.sortIssue? (s : Schema) (key : String) : Option Issue :=
  match s.field? key with
  | none => some (.unknownSort key)
  | some f => if f.sortable then none else some (.notSortable key)

namespace Order

def mayPrecede (descending : Bool) (p q : Rank) : Bool :=
  if descending then p.compare q != .lt else p.compare q != .gt

/-- Records in the order of their typed values.  A single value needs no
comparison, so its rank is not asked for. -/
def arrange (descending : Bool) (present : List (Typed × Record)) :
    Except Fault (List Record) :=
  match present with
  | [] => .ok []
  | [p] => .ok [p.2]
  | _ => do
    let ranked ← present.mapM fun p => do
      let rank ← p.1.rank
      pure (rank, p.2)
    pure ((ranked.mergeSort fun p q => mayPrecede descending p.1 q.1).map (·.2))

def readField (k : Kind) (key : String) (records : List Record) :
    Except Fault (List (Option Typed × Record)) :=
  records.mapM fun r => do
    let t ← k.coerce (r.field key)
    pure (t, r)

/-- The records with a usable value, and the value. -/
def present (read : List (Option Typed × Record)) : List (Typed × Record) :=
  read.filterMap fun p => p.1.map fun t => (t, p.2)

/-- The records without a usable value. -/
def absent (read : List (Option Typed × Record)) : List Record :=
  (read.filter fun p => p.1.isNone).map (·.2)

def sortAs (k : Kind) (key : SortKey) (records : List Record) :
    Except Fault (List Record × Nat) := do
  let read ← readField k key.field records
  let front ← arrange key.descending (present read)
  let back := absent read
  pure (front ++ back, back.length)

end Order

open Journaled in
/-- Records by one field.  Without a schema, or when the field cannot be sorted
by, they keep their order. -/
def sortBy (schema : Option Schema) (key : SortKey) (records : List Record) :
    Journaled (List Record) :=
  match schema with
  | none => do
    note .sorting .warning ("Cannot sort by " ++ Text.quoted key.field ++ " without a schema")
    pure records
  | some s =>
    match s.sortIssue? key.field with
    | some issue => do
      note .sorting .warning ("Sort skipped: " ++ issue.message)
      pure records
    | none => do
      let (sorted, without) ← lift (Order.sortAs ((s.kind? key.field).getD .string) key records)
      let direction := if key.descending then "desc" else "asc"
      note .sorting .debug
        (s!"Sorted {records.length} records by " ++ Text.quoted key.field ++
          s!" ({direction}), {without} without value")
      pure sorted

/-- Records by several fields, the first key counting most: they are sorted by
each key in turn, from the last to the first. -/
def sortByKeys (schema : Option Schema) (keys : List SortKey) (records : List Record) :
    Journaled (List Record) :=
  keys.foldr (fun key sorted => do
    let records ← sorted
    sortBy schema key records) (pure records)

end Facets
