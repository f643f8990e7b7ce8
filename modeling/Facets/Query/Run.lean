import Facets.Filter.Control
import Facets.Page
import Facets.Query.Config
import Facets.Statistics.Summary

/-
Queries: filter, sort and page a collection, then group and summarize what the
filters left.
-/
namespace Facets

/-- The answer to a query.  `sorted` is absent when the filtered records stand
for themselves. -/
structure QueryResult where
  id : String
  filtered : Selection
  sorted : Option (List Record)
  grouped : Groups
  groups : List GroupSummary
  statistics : Option CollectionStatistics
  options : List (String × List Value)
  ranges : List (String × Option (Number × Number))
  page : Option (Page Record)
  issues : List Issue

namespace QueryResult

/-- No reference of the query was unusable. -/
def isClean (r : QueryResult) : Bool := r.issues.isEmpty

def filteredRecords (r : QueryResult) (all : List Record) : List Record := r.filtered.records all

def sortedRecords (r : QueryResult) (all : List Record) : List Record :=
  r.sorted.getD (r.filteredRecords all)

end QueryResult

namespace Query

open Journaled

/-- What the controls show and the filters leave. -/
structure Filtering where
  selection : Selection
  options : List (String × List Value)
  ranges : List (String × Option (Number × Number))
  issues : List Issue

/-- Range filters on fields without numbers. -/
def rangeIssues (ranges : List (String × Option (Number × Number))) : List Issue :=
  ranges.filterMap fun p => if p.2.isNone then some (.noNumericData p.1) else none

def toFieldRanges (ranges : List (String × Option (Number × Number))) : FieldRanges :=
  ranges.map fun p => (p.1, p.2.map amountRange)

def filter (s : Schema) (p : Plan) (records : List Record) : Journaled Filtering := do
  let options ← lift (fieldOptions s p.filters records)
  let ranges ← lift (fieldRanges s p.filters records)
  let selection ← Filter.apply s p.filters p.state (toFieldRanges ranges) records
  pure ⟨selection, options, ranges, s.filterIssues p.filters ++ rangeIssues ranges⟩

structure Arrangement where
  sorted : Option (List Record)
  page : Option (Page Record)
  issues : List Issue

/-- The records in the order asked for, and why they are not in it. -/
def sort (s : Schema) (p : Plan) (filtered : List Record) :
    Journaled (Option (List Record) × List Issue) :=
  match p.sort with
  | none => pure (none, [])
  | some key =>
    match s.sortIssue? key.field with
    | some issue => pure (none, [issue])
    | none => do
      let sorted ← sortBy (some s) key filtered
      pure (some sorted, [])

def order (s : Schema) (p : Plan) (filtered : List Record) : Journaled Arrangement := do
  let (sorted, issues) ← sort s p filtered
  match p.page with
  | none => pure ⟨sorted, none, issues⟩
  | some (number, size) => do
    let page ← lift (Page.of (sorted.getD filtered) number size)
    pure ⟨sorted, some page, issues⟩

structure Grouping where
  grouped : Groups
  groups : List GroupSummary
  statistics : Option CollectionStatistics
  issues : List Issue

def statisticsIssues (s : Schema) (f : StatisticsFields) : List Issue :=
  [f.words, f.year].filterMap fun key =>
    if key != "" && !s.hasField key then some (.unknownStatistics key) else none

def statistics (s : Schema) (p : Plan) (filtered : List Record) :
    Except Fault (Option CollectionStatistics × List Issue) :=
  if p.includeStatistics then do
    let total ← Statistics.collect p.fields filtered
    pure (some total, statisticsIssues s p.fields)
  else .ok (none, [])

/-- The groups of the filtered records, if they are asked for.  Their shares need
the statistics of all, which are taken now unless they are there. -/
def groups (s : Schema) (p : Plan) (filtered : List Record) (known : Option CollectionStatistics)
    (issues : List Issue) : Journaled Grouping :=
  match (if p.includeGroups then p.groupField else none) with
  | none => pure ⟨[], [], known, issues⟩
  | some key =>
    if s.hasField key then do
      let grouped ← Group.byField key filtered
      let total ← lift (match known with
        | some total => .ok total
        | none => Statistics.collect p.fields filtered)
      let summaries ← lift (GroupSummary.ofGroups p.groupOrder p.fields total.count grouped)
      pure ⟨grouped, summaries, some total, issues⟩
    else pure ⟨[], [], known, issues ++ [.unknownGroup key]⟩

def group (s : Schema) (p : Plan) (filtered : List Record) : Journaled Grouping := do
  let (known, issues) ← lift (statistics s p filtered)
  groups s p filtered known issues

def noteIssues : List Issue → Journaled Unit
  | [] => pure ()
  | issue :: rest => do
    note .queries .warning ("Configuration issue: " ++ issue.message)
    noteIssues rest

def nameOrNone (s : Option String) : String := s.getD "None"

/-- Answer a query.  The id only names the answer. -/
def run (id : String) (s : Schema) (c : QueryConfig) (d : Settings) (records : List Record) :
    Journaled QueryResult := do
  let p := c.plan s d
  note .queries .info
    (s!"Running query: records={records.length}, filters={p.filters.length}, " ++
      s!"sort={nameOrNone c.sortField}, group_by={nameOrNone (c.groupFieldOr s)}")
  let filtering ← (filter s p records).atStage "filter"
  let filtered := filtering.selection.records records
  let ordering ← (order s p filtered).atStage "sort"
  let grouping ← (group s p filtered).atStage "group"
  let issues := filtering.issues ++ ordering.issues ++ grouping.issues
  (noteIssues issues).atStage "group"
  (note .queries .info
    s!"Query complete: kept={filtered.length}, groups={grouping.groups.length}, issues={issues.length}").atStage
    "group"
  pure
    { id, filtered := filtering.selection, sorted := ordering.sorted, grouped := grouping.grouped,
      groups := grouping.groups, statistics := grouping.statistics, options := filtering.options,
      ranges := filtering.ranges, page := ordering.page, issues }

end Query
end Facets
