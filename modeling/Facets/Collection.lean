import Facets.Filter.Apply

/-
A collection that is worked on step by step: all its records, and the list that
filters and sorts have made of them.
-/
namespace Facets

/-- All records, and the current list unless it is the list of all records
itself. -/
structure Collection where
  all : List Record
  view : Option (List Record) := none

namespace Collection

/-- The list that operations work on. -/
def current (c : Collection) : List Record := c.view.getD c.all

def narrow (c : Collection) : Selection → Collection
  | .whole => c
  | .part kept => { c with view := some kept }

def arrange (c : Collection) (records : List Record) : Collection :=
  { c with view := some records }

def reset (c : Collection) : Collection := { c with view := none }

def nextSerial (c : Collection) : Nat := (c.all.map (·.serial + 1)).foldl max 0

def add (c : Collection) (r : Record) : Collection := { c with all := c.all ++ [r] }

def modify (c : Collection) (serial : Nat) (change : Record → Record) : Collection :=
  let onMatch (r : Record) := if r.serial = serial then change r else r
  { all := c.all.map onMatch, view := c.view.map (·.map onMatch) }

end Collection
end Facets
