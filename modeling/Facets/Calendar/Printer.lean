import Facets.Calendar.Moment
import Facets.Text.Digit

/-
Dates and times as text.
-/
namespace Facets
namespace Calendar

open Text

def monthDayChars (d : Date) : List Char :=
  '-' :: padded 2 d.month ++ '-' :: padded 2 d.day

/-- `YYYY-MM-DD`, the year with four digits. -/
def isoDateChars (d : Date) : List Char := padded 4 d.year ++ monthDayChars d

/-- The date for display, the year without zeros before it. -/
def displayDateChars (d : Date) : List Char := decimal d.year ++ monthDayChars d

/-- The year and month for display, the year without zeros before it. -/
def monthChars (d : Date) : List Char := decimal d.year ++ '-' :: padded 2 d.month

def clockChars (hour minute second : Nat) : List Char :=
  padded 2 hour ++ ':' :: padded 2 minute ++ ':' :: padded 2 second

def fractionChars (microsecond : Nat) : List Char :=
  if microsecond = 0 then [] else '.' :: padded 6 microsecond

def timeChars (t : TimeOfDay) : List Char :=
  clockChars t.hour t.minute t.second ++ fractionChars t.microsecond

/-- An offset as signed hours and minutes, with seconds only when it has any. -/
def offsetChars (o : Offset) : List Char :=
  let n := o.micros.natAbs
  let sign := if o.micros < 0 then '-' else '+'
  let seconds := n / 1000000 % 60
  let microsecond := n % 1000000
  sign :: padded 2 (n / 3600000000) ++ ':' :: padded 2 (n / 60000000 % 60) ++
    (if seconds = 0 ∧ microsecond = 0 then []
     else ':' :: padded 2 seconds ++ fractionChars microsecond)

def dateTimeChars (separator : Char) (l : LocalTime) (offset : Option Offset) : List Char :=
  isoDateChars l.date ++ separator :: timeChars l.time ++
    (match offset with
     | none => []
     | some o => offsetChars o)

end Calendar
end Facets
