import Facets.Fault
import Facets.Number.Basic
import Facets.Text.Blank
import Facets.Text.Digit

/-
Numerals: an optional sign, decimal digits, an optional point with digits and an
optional exponent.  Digits are the ten of ASCII, and nothing separates them.
-/
namespace Facets
namespace Number

open Text

def takeDigits (cs : List Char) : List Char × List Char :=
  (cs.takeWhile Char.isDigit, cs.dropWhile Char.isDigit)

def takeSign : List Char → Bool × List Char
  | '-' :: cs => (true, cs)
  | '+' :: cs => (false, cs)
  | cs => (false, cs)

/-- The parts of a numeral as written.  The fraction and the exponent are absent
when their mark is. -/
structure Numeral where
  negative : Bool
  whole : List Char
  fraction : Option (List Char)
  exponent : Option (Bool × List Char)
  deriving DecidableEq

def takeExponent : List Char → Option (Option (Bool × List Char))
  | [] => some none
  | c :: cs =>
    if c = 'e' ∨ c = 'E' then
      let (negative, ds) := takeSign cs
      if ds ≠ [] ∧ ds.all Char.isDigit then some (some (negative, ds)) else none
    else none

/-- The numeral that a text is, if it is one: it has a digit before or after
the point. -/
def Numeral.read? (cs : List Char) : Option Numeral :=
  let (negative, unsigned) := takeSign cs
  let (whole, rest) := takeDigits unsigned
  match rest with
  | '.' :: afterPoint =>
    let (fraction, rest) := takeDigits afterPoint
    if whole = [] ∧ fraction = [] then none
    else (takeExponent rest).map fun e => ⟨negative, whole, some fraction, e⟩
  | _ =>
    if whole = [] then none
    else (takeExponent rest).map fun e => ⟨negative, whole, none, e⟩

namespace Numeral

/-- Digits alone stand for an integer. -/
def isInteger (n : Numeral) : Bool := n.fraction.isNone && n.exponent.isNone

def integer (n : Numeral) : Int :=
  if n.negative then -(ofDecimal n.whole : Int) else (ofDecimal n.whole : Int)

/-- The digits without the point, the zeros before them dropped. -/
def significand (n : Numeral) : List Char :=
  (n.whole ++ n.fraction.getD []).dropWhile (· == '0')

/-- The exponent of the last digit. -/
def lastExponent (n : Numeral) : Int :=
  let written : Int :=
    match n.exponent with
    | none => 0
    | some (true, ds) => -(ofDecimal ds : Int)
    | some (false, ds) => (ofDecimal ds : Int)
  written - ((n.fraction.getD []).length : Int)

/-- The double nearest to the value.  A first digit at or beyond the 400th place
on either side settles the result without the digits. -/
def double (n : Numeral) : Double :=
  let ds := n.significand
  let lead := (ds.length : Int) + n.lastExponent
  if ds = [] then Double.ofRatio n.negative 0 1
  else if 400 ≤ lead then .infinite n.negative
  else if lead ≤ -400 then Double.ofRatio n.negative 0 1
  else Double.ofDecimal n.negative (ofDecimal ds) n.lastExponent

/-- The number that a numeral stands for.  One that lies beyond the finite
doubles stands for none. -/
def number (n : Numeral) : Except Fault (Option Number) :=
  if n.isInteger then
    if n.whole.length ≤ Fault.digitLimit then .ok (some (.int n.integer))
    else .error (.numeralTooLong n.whole.length)
  else
    .ok (n.double.finite?.map .float)

end Numeral

/-- The number that a text stands for, blanks around it aside. -/
def ofText (s : String) : Except Fault (Option Number) :=
  match Numeral.read? (strip s.toList) with
  | some n => n.number
  | none => .ok none

end Number
end Facets
