import Facets.Number.Numeral
import Facets.Reading.Check

/-
Checks of single values.  Numbers, truth values and texts are read generously:
a text that spells a number is one, and a whole double is an integer.
-/
namespace Facets
namespace Reading

open Number

/-- A text, also one given as bytes. -/
def textOf? : Value → Option String
  | .text s => some s
  | .bytes latin => some latin
  | _ => none

def text : Reader String := fun place v =>
  match textOf? v with
  | some s => .ok s
  | none => refuse place "string_type" "Input should be a valid string"

/-- A character that numerals may have around them. -/
def isSpace (c : Char) : Bool := Text.isBlank c && !(0x1C ≤ c.toNat && c.toNat ≤ 0x1F)

def trim (cs : List Char) : List Char :=
  ((cs.dropWhile isSpace).reverse.dropWhile isSpace).reverse

/-- Digits, with single underscores between them, without the underscores. -/
def joinDigits? : List Char → Option (List Char)
  | [] => none
  | [c] => if c.isDigit then some [c] else none
  | c :: '_' :: cs => if c.isDigit then (joinDigits? cs).map (c :: ·) else none
  | c :: cs => if c.isDigit then (joinDigits? cs).map (c :: ·) else none

/-- The sign and digits of an integer numeral.  A fraction of zeros is no
fraction. -/
def integerNumeral? (cs : List Char) : Option (Bool × List Char) :=
  let (negative, cs) := takeSign (trim cs)
  let whole := cs.takeWhile (· != '.')
  let fraction := (cs.dropWhile (· != '.')).drop 1
  if fraction.all (· == '0') then (joinDigits? whole).map fun ds => (negative, ds) else none

/-- The bounds between which whole doubles are read as integers. -/
def wordLimit : Int := Nat.pow 2 63

def isWord (n : Int) : Bool := -wordLimit ≤ n && n < wordLimit

def integerOfText (place : Place) (s : String) : Checked Int :=
  match integerNumeral? s.toList with
  | none => refuse place "int_parsing"
      "Input should be a valid integer, unable to parse string as an integer"
  | some (negative, ds) =>
    if Fault.digitLimit < ds.length then
      refuse place "int_parsing_size"
        "Unable to parse input string as an integer, exceeded maximum size"
    else
      let n : Int := Text.ofDecimal ds
      .ok (if negative then -n else n)

def integerOfDouble (place : Place) (x : Double) : Checked Int :=
  match x with
  | .finite x =>
    if x.isIntegral then
      if isWord x.truncate then .ok x.truncate
      else refuse place "int_parsing_size"
        "Unable to parse input string as an integer, exceeded maximum size"
    else refuse place "int_from_float"
      "Input should be a valid integer, got a number with a fractional part"
  | _ => refuse place "finite_number" "Input should be a finite number"

def integer : Reader Int := fun place v =>
  match v with
  | .int n => .ok n
  | .bool b => .ok (if b then 1 else 0)
  | .float x => integerOfDouble place x
  | v =>
    match textOf? v with
    | some s => integerOfText place s
    | none => refuse place "int_type" "Input should be a valid integer"

def yesWords : List String := ["1", "on", "t", "true", "y", "yes"]

def noWords : List String := ["0", "off", "f", "false", "n", "no"]

def unclearFlag (place : Place) : Checked Bool :=
  refuse place "bool_parsing" "Input should be a valid boolean, unable to interpret input"

def noFlag (place : Place) : Checked Bool :=
  refuse place "bool_type" "Input should be a valid boolean"

def flagOfInt (place : Place) (n : Int) : Checked Bool :=
  if n = 0 then .ok false
  else if n = 1 then .ok true
  else if isWord n then unclearFlag place
  else noFlag place

def flagOfText (place : Place) (s : String) : Checked Bool :=
  let word := String.ofList (s.toList.map Char.toLower)
  if yesWords.contains word then .ok true
  else if noWords.contains word then .ok false
  else unclearFlag place

def flag : Reader Bool := fun place v =>
  match v with
  | .bool b => .ok b
  | .int n => flagOfInt place n
  | .float x =>
    match integerOfDouble place x with
    | .ok n => flagOfInt place n
    | .refused _ => noFlag place
  | v =>
    match textOf? v with
    | some s => flagOfText place s
    | none => noFlag place

def doubleOfText? (s : String) : Option Double :=
  let cs := trim s.toList
  let (negative, unsigned) := takeSign cs
  let word := String.ofList (unsigned.map Char.toLower)
  if word = "inf" ∨ word = "infinity" then some (.infinite negative)
  else if word = "nan" then some (.nan 0)
  else (Numeral.read? cs).map Numeral.double

def doubleOfText (place : Place) (s : String) : Checked Double :=
  match doubleOfText? s with
  | some x => .ok x
  | none => refuse place "float_parsing"
      "Input should be a valid number, unable to parse string as a number"

/-- A double; an integer is read as the nearest one. -/
def double : Reader Double := fun place v =>
  match v with
  | .float x => .ok x
  | .bool b => .ok (.ofInt (if b then 1 else 0))
  | .int n =>
    match Number.double n with
    | .ok x => .ok x
    | .error _ => refuse place "float_type" "Input should be a valid number"
  | v =>
    match textOf? v with
    | some s => doubleOfText place s
    | none => refuse place "float_type" "Input should be a valid number"

/-- An integer or a double, each kept as it is.  Anything else is read as an
integer if it can be, and otherwise as a double. -/
def amount : Reader Amount := fun place v =>
  match v with
  | .float x => .ok (.float x)
  | v =>
    match integer (place ++ ["int"]) v with
    | .ok n => .ok (.int n)
    | .refused issues =>
      match double (place ++ ["float"]) v with
      | .ok x => .ok (.float x)
      | .refused more => .refused (issues ++ more)

end Reading
end Facets
