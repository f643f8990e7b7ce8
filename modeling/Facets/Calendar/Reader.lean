import Facets.Calendar.Moment
import Facets.Text.Digit

/-
Reading dates and times from text.

A full text is a date, any one character, and a time with an optional offset.
The date is `YYYY-MM-DD`, `YYYYMMDD`, or a day of a week in the same two styles,
`YYYY-Www-D` and `YYYYWwwD`, where the day may be left out for Monday.  Only
some of these can be told apart by their marks, so where the date ends is
settled first, by `dateLength?`.
-/
namespace Facets
namespace Calendar

open Text

/-- The number in exactly so many leading ASCII digits, and the rest. -/
def takeFixed (n : Nat) (cs : List Char) : Option (Nat × List Char) :=
  let ds := cs.take n
  if ds.length = n ∧ ds.all Char.isDigit then some (ofDecimal ds, cs.drop n) else none

/-- The length of the date that a text begins with.  A dash after a week of the
dashed style could begin a day or separate a time: it separates a time when two
characters on there is a digit.  In the other style the digits after the week
hold the day exactly when there is an odd number of them, unless nothing but
digits follows. -/
def dateLength? (cs : List Char) : Option Nat :=
  let isDigitAt (i : Nat) : Bool :=
    match cs[i]? with
    | some c => c.isDigit
    | none => false
  if cs.length < 7 then none
  else if cs.length = 7 then some 7
  else if cs[4]? = some '-' then
    if cs[5]? = some 'W' then
      if cs[8]? = some '-' then
        if cs.length = 9 then none
        else if isDigitAt 10 then some 8
        else some 10
      else some 8
    else some 10
  else if cs[4]? = some 'W' then
    let stop := 7 + ((cs.drop 7).takeWhile Char.isDigit).length
    if stop < 9 then some stop
    else if stop % 2 = 0 then some 7
    else some 8
  else some 8

/-- The text after a dash that must be there in the dashed style and must not be
there in the other. -/
def takeDash (dashed : Bool) (cs : List Char) : Option (List Char) :=
  if dashed then
    match cs with
    | '-' :: r => some r
    | _ => none
  else some cs

/-- The week and day after the letter of a week date. -/
def readWeek (year : Nat) (dashed : Bool) (cs : List Char) : Option Date := do
  let (week, r) ← takeFixed 2 cs
  if r.isEmpty then Date.ofWeek? year week 1
  else
    let r ← takeDash dashed r
    let (day, r) ← takeFixed 1 r
    if r.isEmpty then Date.ofWeek? year week day else none

def readDate? (cs : List Char) : Option Date := do
  let (year, r) ← takeFixed 4 cs
  let dashed := r.head? == some '-'
  let r := if dashed then r.tail else r
  match r with
  | 'W' :: r => readWeek year dashed r
  | _ => do
    let (month, r) ← takeFixed 2 r
    let r ← takeDash dashed r
    let (day, r) ← takeFixed 2 r
    if r.isEmpty then Date.ofParts? year month day else none

/-- Hours, minutes, seconds and microseconds as read, before their ranges are
checked, and whether something that belongs to no part was left. -/
structure ClockReading where
  hour : Nat
  minute : Nat
  second : Nat
  microsecond : Nat
  stray : Bool

/-- What is left over after a clock reading is no part of it, unless it begins
with a NUL, which ends a text. -/
def isStray (cs : List Char) : Bool :=
  match cs with
  | [] => false
  | c :: _ => c != '\x00'

/-- Microseconds from the digits of a fraction.  Digits beyond the sixth are
dropped. -/
def readFraction (cs : List Char) : Option (Nat × Bool) := do
  let n := min 6 cs.length
  let (value, r) ← takeFixed n cs
  some (value * Nat.pow 10 (6 - n), isStray (r.dropWhile Char.isDigit))

/-- How a clock reading goes on after a two-digit part. -/
inductive AfterPart
  | stop (stray : Bool)
  | nextPart (rest : List Char)
  | fraction (rest : List Char)

/-- What comes after a part.  Parts are joined by colons throughout or not at
all, and any of them may have a fraction, which ends the reading.  A single
ASCII character at the end is left over. -/
def afterPart (separated : Bool) (cs : List Char) : Option AfterPart :=
  match cs with
  | [] => some (.stop false)
  | [c] => if c.toNat < 128 then some (.stop (isStray cs)) else none
  | c :: r =>
    if separated && c == ':' then some (.nextPart r)
    else if c == '.' || c == ',' then some (.fraction r)
    else if separated then none
    else some (.nextPart cs)

/-- At most so many parts and a fraction, which counts microseconds whatever
part it follows.  What goes on after the last part is a fraction, also behind
the mark of another part. -/
def readParts (separated : Bool) : Nat → List Char → Option (List Nat × Nat × Bool)
  | 0, cs => do
    let fraction ← readFraction cs
    some ([], fraction)
  | n + 1, cs => do
    let (part, r) ← takeFixed 2 cs
    match ← afterPart separated r with
    | .stop stray => some ([part], 0, stray)
    | .fraction r => do
      let fraction ← readFraction r
      some ([part], fraction)
    | .nextPart r => do
      let (parts, fraction) ← readParts separated n r
      some (part :: parts, fraction)

/-- A clock reading: `HH`, `HH:MM` or `HH:MM:SS`, or the same without colons,
with an optional fraction. -/
def readClock? (cs : List Char) : Option ClockReading := do
  let (parts, microsecond, stray) ← readParts (cs[2]? == some ':') 3 cs
  some ⟨parts.getD 0 0, parts.getD 1 0, parts.getD 2 0, microsecond, stray⟩

/-- The offset that follows its mark.  An offset of no whole second is no offset
at all. -/
def readOffset? (mark : Char) (cs : List Char) : Option Offset :=
  if mark = 'Z' then if isStray cs then none else some .utc
  else do
    let r ← readClock? cs
    if r.stray then none
    else
      let seconds := (r.hour * 60 + r.minute) * 60 + r.second
      if seconds = 0 then some .utc
      else
        let micros : Int := (seconds * 1000000 + r.microsecond : Nat)
        Offset.ofMicros? (if mark = '-' then -micros else micros)

/-- A time of day with an optional offset.  A stray character between the time
and an offset is passed over. -/
def readTime? (cs : List Char) : Option (TimeOfDay × Option Offset) := do
  let isMark (c : Char) : Bool := c == '+' || c == '-' || c == 'Z'
  let clock ← readClock? (cs.takeWhile fun c => !isMark c)
  match cs.dropWhile fun c => !isMark c with
  | [] =>
    if clock.stray then none
    else
      let t ← TimeOfDay.ofParts? clock.hour clock.minute clock.second clock.microsecond
      some (t, none)
  | mark :: r => do
    let offset ← readOffset? mark r
    let t ← TimeOfDay.ofParts? clock.hour clock.minute clock.second clock.microsecond
    some (t, some offset)

/-- A date with an optional time and offset.  Any one character stands between
the two. -/
def readDateTime? (cs : List Char) : Option (LocalTime × Option Offset) := do
  let n ← dateLength? cs
  let date ← readDate? (cs.take n)
  match cs.drop n with
  | [] => some (.startOf date, none)
  | _ :: r => do
    let (time, offset) ← readTime? r
    some ({ date, time }, offset)

/-- A year, or a year and a month, standing for the first day.  Digits of any
script are read. -/
def readPartial? (cs : List Char) : Option Date :=
  let year := cs.take 4
  if year.length = 4 ∧ year.all isAnyDigit then
    match cs.drop 4 with
    | [] => Date.ofParts? (digitsValue year) 1 1
    | '-' :: month =>
      if (month.length = 1 ∨ month.length = 2) ∧ month.all isAnyDigit then
        Date.ofParts? (digitsValue year) (digitsValue month) 1
      else none
    | _ => none
  else none

end Calendar

namespace Moment

open Calendar

/-- The moment that a text stands for: a date with an optional time, or a
partial date.  Without an offset it is read as universal time. -/
def ofText? (cs : List Char) : Option Moment :=
  match readDateTime? cs with
  | some (clock, offset) => some ⟨clock, .fixed (offset.getD .utc)⟩
  | none => (readPartial? cs).map fun d => ⟨.startOf d, .utc⟩

end Moment
end Facets
