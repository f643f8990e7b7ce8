import Facets.Statistics.Basic

namespace Facets

/-- A group as it is presented: its key and label, its members, what is known
about them and their share of the collection. -/
structure GroupSummary where
  key : Value
  label : String
  records : List Record
  statistics : GroupStatistics
  percentage : Int

namespace GroupSummary

def ofGroup (f : StatisticsFields) (total : Int) (key : Value) (members : List Record) :
    Except Fault GroupSummary := do
  let statistics ← Statistics.ofGroup f members
  let label ← key.groupLabel
  let percentage ← Statistics.percentage statistics.count total
  pure ⟨key, label, members, statistics, percentage⟩

/-- The summaries of groups in the given order, with shares of a total. -/
def ofGroups (o : GroupOrder) (f : StatisticsFields) (total : Int) (groups : Groups) :
    Except Fault (List GroupSummary) := do
  let sorted ← groups.sort o
  sorted.mapM fun g => ofGroup f total g.1 g.2

end GroupSummary
end Facets
