import Facets.Issue
import Facets.Schema

namespace Facets

inductive FilterKind
  | select
  | checkbox
  | range
  | text
  deriving DecidableEq, Repr

namespace FilterKind

def all : List FilterKind := [.select, .checkbox, .range, .text]

def tag : FilterKind → String
  | .select => "select"
  | .checkbox => "checkbox"
  | .range => "range"
  | .text => "text"

def hasOptions : FilterKind → Bool
  | .select | .checkbox => true
  | _ => false

end FilterKind

structure FilterDefinition where
  field : String
  kind : FilterKind
  label : String := ""
  enabled : Bool := true
  options : Option (List String) := none
  deriving DecidableEq

namespace Schema

/-- Why a filter cannot be used, unless it is switched off. -/
def filterIssue? (s : Schema) (d : FilterDefinition) : Option Issue :=
  if d.enabled then
    match s.field? d.field with
    | none => some (.unknownFilter d.field)
    | some f => if f.filterable then none else some (.notFilterable d.field)
  else none

def canFilter (s : Schema) (d : FilterDefinition) : Bool :=
  d.enabled && (s.filterIssue? d).isNone

def usableFilters (s : Schema) (ds : List FilterDefinition) : List FilterDefinition :=
  ds.filter s.canFilter

/-- What keeps the others from being used.  A filter that is switched off is
left out without an issue. -/
def filterIssues (s : Schema) (ds : List FilterDefinition) : List Issue :=
  ds.filterMap s.filterIssue?

end Schema
end Facets
