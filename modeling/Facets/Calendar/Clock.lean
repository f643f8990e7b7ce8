import Facets.Calendar.Date

namespace Facets
namespace Calendar

def microsInDay : Nat := 86400000000

end Calendar

open Calendar

/-- A time of day, to the microsecond. -/
structure TimeOfDay where
  micros : Nat
  inDay : micros < microsInDay
  deriving DecidableEq

namespace TimeOfDay

def midnight : TimeOfDay := ⟨0, by decide⟩

def hour (t : TimeOfDay) : Nat := t.micros / 3600000000

def minute (t : TimeOfDay) : Nat := t.micros / 60000000 % 60

def second (t : TimeOfDay) : Nat := t.micros / 1000000 % 60

def microsecond (t : TimeOfDay) : Nat := t.micros % 1000000

def ofParts? (hour minute second microsecond : Nat) : Option TimeOfDay :=
  if hour < 24 ∧ minute < 60 ∧ second < 60 ∧ microsecond < 1000000 then
    let n := ((hour * 60 + minute) * 60 + second) * 1000000 + microsecond
    if h : n < microsInDay then some ⟨n, h⟩ else none
  else none

end TimeOfDay

/-- A distance from universal time of less than a day, in microseconds; places
to the east are ahead. -/
structure Offset where
  micros : Int
  inRange : micros.natAbs < microsInDay
  deriving DecidableEq

namespace Offset

def utc : Offset := ⟨0, by decide⟩

def ofMicros? (n : Int) : Option Offset :=
  if h : n.natAbs < microsInDay then some ⟨n, h⟩ else none

end Offset

/-- What a calendar and a clock show.  A clock that is set back shows some times
twice, and the second time is the later one. -/
structure LocalTime where
  date : Date
  time : TimeOfDay
  later : Bool := false
  deriving DecidableEq

namespace LocalTime

/-- The microseconds since the calendar began, the same for both times that a
clock shows twice. -/
def micros (l : LocalTime) : Int := (l.date.ordinal * microsInDay + l.time.micros : Nat)

/-- The beginning of a day. -/
def startOf (d : Date) : LocalTime := { date := d, time := .midnight }

/-- The first of January 1970, in microseconds since the calendar began. -/
def epoch : Int := (719163 * microsInDay : Nat)

/-- The local time so many microseconds after the calendar began, if it lies in
the calendar. -/
def ofMicros? (n : Int) : Option LocalTime :=
  let days := Int.fdiv n microsInDay
  let rest := (Int.fmod n microsInDay).toNat
  if h : rest < microsInDay then
    (Date.ofOrdinal? days).map fun d => { date := d, time := ⟨rest, h⟩ }
  else none

end LocalTime

end Facets
