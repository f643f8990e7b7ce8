import Facets.Fault
import Facets.Text.Blank
import Facets.Text.Digit

/-
Sizes in bytes: digits of any script, blanks, and a unit in either case.
-/
namespace Facets
namespace Logging

def units : List (List Char × Nat) :=
  [(['B'], 1), (['K', 'B'], 1024), (['M', 'B'], 1024 * 1024), (['G', 'B'], 1024 * 1024 * 1024)]

/-- The sign of the kelvin, which is a `k` when case does not matter. -/
def kelvin : Char := '\u212A'

/-- Two letters are one when case does not matter. -/
def sameLetter (c d : Char) : Bool :=
  c.toUpper == d.toUpper || (c == kelvin && d.toUpper == 'K')

/-- The text spells a unit when case does not matter. -/
def spells (cs unit : List Char) : Bool :=
  cs.length == unit.length && (cs.zip unit).all fun p => sameLetter p.1 p.2

/-- The bytes of a unit by its letters in upper case.  The sign of the kelvin
has no other case, so a unit spelled with it is not found. -/
def unitBytes (cs : List Char) : Except Fault Nat :=
  let upper := cs.map Char.toUpper
  match units.find? (·.1 == upper) with
  | some u => .ok u.2
  | none => .error (.unknownUnit (String.ofList upper))

def sizeParts? (cs : List Char) : Option (List Char × List Char) :=
  let digits := cs.takeWhile Text.isAnyDigit
  let unit := (cs.dropWhile Text.isAnyDigit).dropWhile Text.isBlank
  if digits.isEmpty then none
  else if unit.isEmpty then some (digits, ['B'])
  else if units.any fun u => spells unit u.1 then some (digits, unit)
  else none

def parseSize (s : String) : Except Fault Nat :=
  match sizeParts? (Text.strip s.toList) with
  | none => .error (.invalidSize s)
  | some (digits, unit) =>
    if Fault.digitLimit < digits.length then .error (.numeralTooLong digits.length)
    else do
      let bytes ← unitBytes unit
      pure (Text.digitsValue digits * bytes)

end Logging
end Facets
