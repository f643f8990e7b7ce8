import Facets.Calendar.Clock

/-
Places: those at a fixed distance from universal time, and the zones whose clocks
are set forward and back.
-/
namespace Facets

/-- A change of the clocks of a zone: its instant, in microseconds of universal
time since the calendar began, and how far ahead the clocks stand after it. -/
structure ClockChange where
  instant : Int
  offset : Offset
  deriving DecidableEq

/-- The reading from which a change counts on clocks that stood so far ahead
before it.  The readings between the two offsets come twice when the clocks are
set back, and never when they are set forward.  For the earlier time of such a
reading the change is still to come, for the later time it is past. -/
def ClockChange.reading (before : Offset) (later : Bool) (c : ClockChange) : Int :=
  c.instant +
    (if later then min before.micros c.offset.micros else max before.micros c.offset.micros)

namespace Zone

/-- The readings around every change end before those around the next begin. -/
def areInTurn : Offset → List ClockChange → Bool
  | before, c :: next :: rest =>
    decide (c.reading before false ≤ next.reading c.offset true) &&
      areInTurn c.offset (next :: rest)
  | _, _ => true

/-- How far ahead the clocks stand at a reading, by the last change before it. -/
def offsetAmong (reading : Int) (later : Bool) : Offset → List ClockChange → Offset
  | before, [] => before
  | before, c :: rest =>
    if c.reading before later ≤ reading then offsetAmong reading later c.offset rest else before

end Zone

/-- A zone of the earth by its name: how far ahead its clocks stand at first, and
every change of them. -/
structure Zone where
  name : String
  start : Offset
  changes : List ClockChange
  inTurn : Zone.areInTurn start changes = true
  deriving DecidableEq

/-- Where a clock stands. -/
inductive Place
  | fixed (offset : Offset)
  | zone (zone : Zone)
  deriving DecidableEq

namespace Place

def utc : Place := .fixed .utc

/-- How far ahead of universal time the clock stands when it shows a time. -/
def offsetAt (p : Place) (l : LocalTime) : Offset :=
  match p with
  | .fixed o => o
  | .zone z => Zone.offsetAmong l.micros l.later z.start z.changes

end Place
end Facets
