namespace Facets
namespace Logging

/-- What is known about the work that log lines belong to. -/
structure Context where
  query : Option String := none
  collection : Option String := none
  stage : Option String := none
  deriving DecidableEq

namespace Context

/-- The context of a new query.  The stage stays. -/
def withQuery (c : Context) (query : String) (collection : Option String) : Context :=
  { c with query := some query, collection }

def withStage (c : Context) (stage : Option String) : Context := { c with stage }

/-- What is known, by name. -/
def entries (c : Context) : List (String × String) :=
  [("query_id", c.query), ("collection", c.collection), ("stage", c.stage)].filterMap fun p =>
    p.2.map fun s => (p.1, s)

end Context
end Logging
end Facets
