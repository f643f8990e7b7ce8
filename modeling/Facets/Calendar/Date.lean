namespace Facets
namespace Calendar

def isLeap (year : Nat) : Bool := year % 4 == 0 && (year % 100 != 0 || year % 400 == 0)

/-- The length of a month.  There are no days in a month that does not exist. -/
def daysInMonth (year month : Nat) : Nat :=
  match month with
  | 1 => 31
  | 2 => if isLeap year then 29 else 28
  | 3 => 31
  | 4 => 30
  | 5 => 31
  | 6 => 30
  | 7 => 31
  | 8 => 31
  | 9 => 30
  | 10 => 31
  | 11 => 30
  | 12 => 31
  | _ => 0

/-- The parts name a day of the years 1 to 9999. -/
def IsDate (year month day : Nat) : Prop :=
  1 ≤ year ∧ year ≤ 9999 ∧ 1 ≤ day ∧ day ≤ daysInMonth year month

instance (year month day : Nat) : Decidable (IsDate year month day) :=
  inferInstanceAs (Decidable (_ ∧ _))

end Calendar

open Calendar in
/-- A day of the calendar, which is taken to hold at all times. -/
structure Date where
  year : Nat
  month : Nat
  day : Nat
  isDate : IsDate year month day
  deriving DecidableEq

namespace Date

open Calendar

def ofParts? (year month day : Nat) : Option Date :=
  if h : IsDate year month day then some ⟨year, month, day, h⟩ else none

def daysBeforeYear (year : Nat) : Nat :=
  let y := year - 1
  y * 365 + y / 4 - y / 100 + y / 400

def daysBeforeMonth (year month : Nat) : Nat :=
  (List.range (month - 1)).foldl (fun days m => days + daysInMonth year (m + 1)) 0

/-- The number of the day, the first day of the year 1 being day 1. -/
def ordinal (d : Date) : Nat := daysBeforeYear d.year + daysBeforeMonth d.year d.month + d.day

/-- The year that a day falls in, from the number of days before it.  The mean
year of 400 years misses the year by at most one. -/
def yearOfDays (days : Nat) : Nat :=
  let y := 400 * days / 146097 + 1
  if days < daysBeforeYear y then y - 1
  else if daysBeforeYear (y + 1) ≤ days then y + 1
  else y

/-- The month and day that follow a number of days of a year. -/
def monthAndDay (year : Nat) (days : Nat) : Nat × Nat :=
  let month := ((List.range 12).filter fun m => daysBeforeMonth year (m + 1) ≤ days).length
  (month, days - daysBeforeMonth year month + 1)

def ofOrdinal? (n : Int) : Option Date :=
  if n < 1 then none
  else
    let days := n.toNat - 1
    let year := yearOfDays days
    let (month, day) := monthAndDay year (days - daysBeforeYear year)
    ofParts? year month day

/-- The day of the week, Monday being 0. -/
def weekday (ordinal : Nat) : Nat := (ordinal + 6) % 7

/-- The day number of the Monday that begins the first week of a year: the week
that holds the year's first Thursday. -/
def firstMonday (year : Nat) : Int :=
  let first := daysBeforeYear year + 1
  let w := weekday first
  if 3 < w then (first : Int) - w + 7 else (first : Int) - w

/-- A year has a week 53 when it begins on a Thursday, or on a Wednesday in a
leap year. -/
def hasLongWeeks (year : Nat) : Bool :=
  let w := weekday (daysBeforeYear year + 1)
  w == 3 || (w == 2 && isLeap year)

def ofWeek? (year week day : Nat) : Option Date :=
  if 1 ≤ year ∧ 1 ≤ week ∧ (week ≤ 52 ∨ week = 53 ∧ hasLongWeeks year) ∧ 1 ≤ day ∧ day ≤ 7 then
    ofOrdinal? (firstMonday year + ((week - 1) * 7 + (day - 1) : Nat))
  else none

end Date
end Facets
