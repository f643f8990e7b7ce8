import Facets.Text.Quoted

namespace Facets

/-- What a field was to be used for. -/
inductive Purpose
  | filter
  | sort
  | group
  | aggregate
  deriving DecidableEq, Repr

/-- Why a field could not be used. -/
inductive Reason
  | unknownField
  | notFilterable
  | notSortable
  | noNumericData
  deriving DecidableEq, Repr

namespace Purpose

def tag : Purpose → String
  | .filter => "filter"
  | .sort => "sort"
  | .group => "group"
  | .aggregate => "aggregate"

def all : List Purpose := [.filter, .sort, .group, .aggregate]

end Purpose

namespace Reason

def tag : Reason → String
  | .unknownField => "unknown_field"
  | .notFilterable => "not_filterable"
  | .notSortable => "not_sortable"
  | .noNumericData => "no_numeric_data"

def all : List Reason := [.unknownField, .notFilterable, .notSortable, .noNumericData]

end Reason

/-- A reference to a field that could not be used.  Engines report it and go on
without. -/
structure Issue where
  field : String
  purpose : Purpose
  reason : Reason
  message : String
  deriving DecidableEq, Repr

namespace Issue

def unknownFilter (field : String) : Issue :=
  ⟨field, .filter, .unknownField, "Filter field " ++ Text.quoted field ++ " is not in the schema"⟩

def notFilterable (field : String) : Issue :=
  ⟨field, .filter, .notFilterable, "Field " ++ Text.quoted field ++ " is not filterable"⟩

def noNumericData (field : String) : Issue :=
  ⟨field, .filter, .noNumericData,
    "Range filter on " ++ Text.quoted field ++ " has no numeric data and is ignored"⟩

def unknownSort (field : String) : Issue :=
  ⟨field, .sort, .unknownField, "Sort field " ++ Text.quoted field ++ " is not in the schema"⟩

def notSortable (field : String) : Issue :=
  ⟨field, .sort, .notSortable, "Field " ++ Text.quoted field ++ " is not sortable"⟩

def unknownGroup (field : String) : Issue :=
  ⟨field, .group, .unknownField,
    "Group-by field " ++ Text.quoted field ++ " is not in the schema"⟩

def unknownStatistics (field : String) : Issue :=
  ⟨field, .aggregate, .unknownField,
    "Statistics field " ++ Text.quoted field ++ " is not in the schema"⟩

end Issue
end Facets
