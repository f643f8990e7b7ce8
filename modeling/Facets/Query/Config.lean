import Facets.Filter.Apply
import Facets.Order.Sort
import Facets.Settings
import Facets.Statistics.Basic

namespace Facets

/-- What one query asks for besides the schema and the records.  What is left
out comes from the schema or the settings. -/
structure QueryConfig where
  filters : List FilterDefinition := []
  state : FilterState := []
  sortField : Option String := none
  descending : Bool := false
  groupField : Option String := none
  groupOrder : Option GroupOrder := none
  words : Option String := none
  year : Option String := none
  includeGroups : Bool := true
  includeStatistics : Bool := true
  page : Option Int := none
  pageSize : Option Int := none

/-- What is there, unless it is the empty text. -/
def nonEmpty? (s : Option String) : Option String := s.filter (· != "")

/-- A query with everything filled in.  A field that is not asked for is
absent. -/
structure Plan where
  filters : List FilterDefinition
  state : FilterState
  sort : Option SortKey
  groupField : Option String
  groupOrder : GroupOrder
  fields : StatisticsFields
  includeGroups : Bool
  includeStatistics : Bool
  page : Option (Int × Int)

namespace QueryConfig

/-- The field to group by: the one asked for, or else the status field. -/
def groupFieldOr (c : QueryConfig) (s : Schema) : Option String :=
  c.groupField.or (nonEmpty? s.core.status)

/-- The page size, which is only filled in for a query that asks for a page. -/
def pageSizeOr (c : QueryConfig) (d : Settings) : Option Int :=
  if c.page.isSome then c.pageSize.or (some d.pageSize) else c.pageSize

/-- The query with everything filled in that schema and settings know. -/
def resolve (c : QueryConfig) (s : Schema) (d : Settings) : QueryConfig :=
  { c with
    groupField := c.groupFieldOr s
    groupOrder := c.groupOrder.or (some d.groupOrder)
    words := c.words.or (some d.words)
    year := c.year.or (some d.year)
    pageSize := c.pageSizeOr d }

/-- There is nothing to fill in. -/
def isResolved (c : QueryConfig) (s : Schema) : Bool :=
  (c.groupField.isSome || (nonEmpty? s.core.status).isNone) && c.groupOrder.isSome &&
    c.words.isSome && c.year.isSome && (c.page.isNone || c.pageSize.isSome)

def plan (c : QueryConfig) (s : Schema) (d : Settings) : Plan where
  filters := c.filters
  state := c.state
  sort := (nonEmpty? c.sortField).map fun key => ⟨key, c.descending⟩
  groupField := nonEmpty? (c.groupFieldOr s)
  groupOrder := c.groupOrder.getD d.groupOrder
  fields := ⟨c.words.getD d.words, c.year.getD d.year⟩
  includeGroups := c.includeGroups
  includeStatistics := c.includeStatistics
  page := c.page.map fun n => (n, c.pageSize.getD d.pageSize)

end QueryConfig
end Facets
