import Facets.Calendar.Zone
import Facets.Number.Arithmetic

namespace Facets

/-- A point in time, as the calendar and clock of a place show it. -/
structure Moment where
  clock : LocalTime
  place : Place
  deriving DecidableEq

namespace Moment

def offset (m : Moment) : Offset := m.place.offsetAt m.clock

/-- The point in time itself, in microseconds of universal time. -/
def instant (m : Moment) : Int := m.clock.micros - m.offset.micros

/-- Both moments are times of one zone, whose clocks are set forward and back. -/
def sharesZone (m m' : Moment) : Bool :=
  match m.place, m'.place with
  | .zone z, .zone z' => z == z'
  | _, _ => false

/-- The clock stands differently for the earlier and the later time of the
reading: it comes twice, or not at all. -/
def isTwofold (m : Moment) : Bool :=
  m.place.offsetAt { m.clock with later := !m.clock.later } != m.offset

/-- The order of moments.  Those of one zone go by what its clocks show, all
others by their instants; together these need not be one order. -/
def isBefore (m m' : Moment) : Bool :=
  if m.sharesZone m' then m.clock.micros < m'.clock.micros else m.instant < m'.instant

/-- Moments that are one.  Those of one zone are when its clocks show the same.
Of two places they are by their instants, but a twofold reading is no moment of
another place. -/
def same (m m' : Moment) : Bool :=
  if m.sharesZone m' then m.clock.micros == m'.clock.micros
  else m.instant == m'.instant && !m.isTwofold && !m'.isTwofold

/-- The seconds since 1970, rounded to a double and counted in its units.  Far
from 1970 neighbouring microseconds share a double. -/
def timestamp (m : Moment) : Int :=
  let micros := m.instant - LocalTime.epoch
  let units : Int := Number.Double.roundUnits (micros.natAbs * Number.unitsInOne) 1000000
  if micros < 0 then -units else units

/-- The first of the earliest moments. -/
def earliest (first : Moment) (rest : List Moment) : Moment :=
  rest.foldl (fun low m => if m.isBefore low then m else low) first

/-- The first of the latest moments. -/
def latest (first : Moment) (rest : List Moment) : Moment :=
  rest.foldl (fun high m => if high.isBefore m then m else high) first

open Number in
/-- The moment so many seconds after 1970 in universal time.  The fraction is
taken from the seconds exactly, counted in microseconds as a double, and that
count goes to the nearest whole one, a half to the even one. -/
def ofSeconds? (seconds : Double) : Option Moment :=
  match seconds with
  | .finite x =>
    let whole : Int := x.truncate
    let part := Double.round x.negative (x.units % unitsInOne * 1000000) 1
    match part with
    | .finite p =>
      let count := divNearest p.units unitsInOne
      let micros : Int := if x.negative then -(count : Int) else (count : Int)
      (LocalTime.ofMicros? (LocalTime.epoch + whole * 1000000 + micros)).map fun l => ⟨l, .utc⟩
    | _ => none
  | _ => none

/-- The moment so many milliseconds after 1970.  A count without a finite number
of seconds has none. -/
def ofMillis? (millis : Number) : Option Moment :=
  match millis with
  | .int n =>
    match Number.quotient n 1000 with
    | .ok seconds => ofSeconds? seconds
    | .error _ => none
  | .float x => ofSeconds? (Number.Double.divCount (.finite x) 1000)

end Moment
end Facets
