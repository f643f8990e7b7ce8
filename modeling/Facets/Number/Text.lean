import Facets.Fault
import Facets.Number.Basic
import Facets.Number.Shortest
import Facets.Text.Digit

/-
Numbers as text: integers, doubles in their shortest form, and doubles with a
fixed number of places.
-/
namespace Facets
namespace Number

open Text

def integerChars (n : Int) : List Char :=
  if n < 0 then '-' :: decimal n.natAbs else decimal n.natAbs

/-- The text of an integer.  One whose digits exceed the limit has none. -/
def integerText (n : Int) : Except Fault String :=
  if n.natAbs < Nat.pow 10 Fault.digitLimit then .ok (String.ofList (integerChars n))
  else .error .integerTooLong

/-- How a decimal is laid out: positionally while the exponent of its first
digit is in a window, and with a written exponent outside it. -/
structure Layout where
  leastPositional : Int
  greatestPositional : Int
  exponentWidth : Nat

/-- Doubles are written positionally from 0.0001 up to 16 digits before the
point. -/
def shortestLayout : Layout := ⟨-4, 15, 2⟩

/-- The digits of a decimal around its point.  A positional text always shows
at least one digit on either side of the point. -/
def Layout.chars (l : Layout) (d : Decimal) : List Char :=
  let ds := decimal d.digits
  let lead := (ds.length : Int) + d.exponent - 1
  if l.leastPositional ≤ lead ∧ lead ≤ l.greatestPositional then
    if lead < 0 then
      '0' :: '.' :: List.replicate (-lead - 1).toNat '0' ++ ds
    else
      let whole := lead.toNat + 1
      let places := ds.drop whole
      ds.take whole ++ List.replicate (whole - ds.length) '0' ++ '.' ::
        (if places.isEmpty then ['0'] else places)
  else
    let places := ds.drop 1
    let sign := if lead < 0 then '-' else '+'
    ds.take 1 ++ (if places.isEmpty then [] else '.' :: places) ++
      'e' :: sign :: padded l.exponentWidth lead.natAbs

/-- Trailing zeros carry no information about a decimal. -/
def Decimal.trim (d : Decimal) : Decimal :=
  let zeros := ((decimal d.digits).reverse.takeWhile (· == '0')).length
  ⟨d.digits / Nat.pow 10 zeros, d.exponent + zeros⟩

def FiniteDouble.chars (x : FiniteDouble) : List Char :=
  let magnitude :=
    if x.units = 0 then ['0', '.', '0'] else shortestLayout.chars x.shortest.trim
  if x.negative then '-' :: magnitude else magnitude

def Double.chars : Double → List Char
  | .finite x => x.chars
  | .infinite negative => if negative then "-inf".toList else "inf".toList
  | .nan _ => "nan".toList

def Double.text (x : Double) : String := String.ofList x.chars

/-- Commas before each complete block of three digits, counted from the right
end. -/
def groupThousands (ds : List Char) : List Char :=
  match ds with
  | [] => []
  | d :: rest =>
    let grouped := groupThousands rest
    if rest.length % 3 = 0 ∧ rest ≠ [] then d :: ',' :: grouped else d :: grouped

def wholeChars (grouped : Bool) (n : Nat) : List Char :=
  if grouped then groupThousands (decimal n) else decimal n

/-- The magnitude with three places, a tie going to the even thousandth. -/
def FiniteDouble.threePlaces (grouped : Bool) (x : FiniteDouble) : List Char :=
  let thousandths := divNearest (x.units * 1000) unitsInOne
  let magnitude :=
    wholeChars grouped (thousandths / 1000) ++ '.' :: padded 3 (thousandths % 1000)
  if x.negative then '-' :: magnitude else magnitude

def dropEnd (p : Char → Bool) (cs : List Char) : List Char :=
  (cs.reverse.dropWhile p).reverse

/-- A number for display: an integral value without a point, any other with at
most three places and no trailing zeros. -/
def displayChars (grouped : Bool) (n : Number) : List Char :=
  let whole (m : Int) :=
    if m < 0 then '-' :: wholeChars grouped m.natAbs else wholeChars grouped m.natAbs
  match n with
  | .int m => whole m
  | .float x =>
    if x.isIntegral then whole x.truncate
    else dropEnd (· == '.') (dropEnd (· == '0') (x.threePlaces grouped))

/-- The text of a number for display.  An integer whose digits exceed the limit
has none. -/
def display (grouped : Bool) (n : Number) : Except Fault String :=
  match n with
  | .int m =>
    if m.natAbs < Nat.pow 10 Fault.digitLimit then .ok (String.ofList (displayChars grouped n))
    else .error .integerTooLong
  | .float _ => .ok (String.ofList (displayChars grouped n))

/-- The text of a number in itself, without separators; an integral double is
written as the integer. -/
def plain : Number → Except Fault String
  | .int n => integerText n
  | .float x => if x.isIntegral then .ok (String.ofList (integerChars x.truncate))
    else .ok (String.ofList x.chars)

end Number
end Facets
