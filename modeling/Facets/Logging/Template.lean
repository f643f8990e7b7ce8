import Facets.Number.Text
import Facets.Value.Equality
import Facets.Value.Display

/-
Message templates: text in which `%` marks the places of arguments.

A mark has an optional key in parentheses, flags, a width, a precision and a
letter for the form of the argument.  A template whose arguments do not fit has
no text.
-/
namespace Facets
namespace Logging

open Number Text

structure Flags where
  left : Bool := false
  plus : Bool := false
  space : Bool := false
  alternate : Bool := false
  zero : Bool := false

/-- A mark of a template.  A width or precision that is not written out is an
argument. -/
structure Mark where
  key : Option (List Char)
  flags : Flags
  width : Option (Option Nat)
  precision : Option (Option Nat)
  letter : Char

/-- The key up to its closing parenthesis, and the rest.  Parentheses inside a
key are balanced. -/
def takeKey? (depth : Nat) : List Char → Option (List Char × List Char)
  | [] => none
  | c :: cs =>
    if c = ')' then
      match depth with
      | 0 => some ([], cs)
      | depth + 1 => (takeKey? depth cs).map fun p => (c :: p.1, p.2)
    else (takeKey? (if c = '(' then depth + 1 else depth) cs).map fun p => (c :: p.1, p.2)

def addFlag (f : Flags) (c : Char) : Option Flags :=
  match c with
  | '-' => some { f with left := true }
  | '+' => some { f with plus := true }
  | ' ' => some { f with space := true }
  | '#' => some { f with alternate := true }
  | '0' => some { f with zero := true }
  | _ => none

def takeFlags (f : Flags) : List Char → Flags × List Char
  | [] => (f, [])
  | c :: cs =>
    match addFlag f c with
    | some g => takeFlags g cs
    | none => (f, c :: cs)

/-- A number or the sign that it is an argument. -/
def takeCount : List Char → Option (Option Nat) × List Char
  | '*' :: cs => (some none, cs)
  | cs =>
    let ds := cs.takeWhile Char.isDigit
    if ds.isEmpty then (none, cs) else (some (some (ofDecimal ds)), cs.dropWhile Char.isDigit)

def takeMark? (cs : List Char) : Option (Mark × List Char) := do
  let (key, cs) ←
    match cs with
    | '(' :: r => (takeKey? 0 r).map fun p => (some p.1, p.2)
    | cs => some (none, cs)
  let (flags, cs) := takeFlags {} cs
  let (width, cs) := takeCount cs
  let (precision, cs) :=
    match cs with
    | '.' :: r =>
      let (p, r) := takeCount r
      (some (p.getD (some 0)), r)
    | cs => (none, cs)
  let cs :=
    match cs with
    | c :: r => if c = 'h' ∨ c = 'l' ∨ c = 'L' then r else c :: r
    | [] => []
  match cs with
  | [] => none
  | letter :: rest => some (⟨key, flags, width, precision, letter⟩, rest)

/-! ## Arguments in their forms -/

def fillBlanks (left : Bool) (width : Nat) (cs : List Char) : List Char :=
  let blanks := List.replicate (width - cs.length) ' '
  if left then cs ++ blanks else blanks ++ cs

/-- A number from its sign and the rest, in a width. -/
def fillNumber (f : Flags) (width : Nat) (negative : Bool) (lead body : List Char) : List Char :=
  let sign := if negative then ['-'] else if f.plus then ['+'] else if f.space then [' '] else []
  let head := sign ++ lead
  if f.zero && !f.left then
    head ++ List.replicate (width - (head.length + body.length)) '0' ++ body
  else fillBlanks f.left width (head ++ body)

def atLeast (count : Nat) (ds : List Char) : List Char :=
  List.replicate (count - ds.length) '0' ++ ds

def wholeOf? : Value → Option Int
  | .int n => some n
  | .bool b => some (if b then 1 else 0)
  | _ => none

def doubleOf? : Value → Option Double
  | .float x => some x
  | v => do
    let n ← wholeOf? v
    match Number.double n with
    | .ok x => some x
    | .error _ => none

def fixedChars (places : Nat) (units : Nat) (alternate : Bool) : List Char :=
  let n := divNearest (units * Nat.pow 10 places) unitsInOne
  let point := if places = 0 then (if alternate then ['.'] else []) else
    '.' :: padded places (n % Nat.pow 10 places)
  decimal (n / Nat.pow 10 places) ++ point

def reaches (units : Nat) (e : Int) : Bool :=
  if 0 ≤ e then unitsInOne * Nat.pow 10 e.toNat ≤ units
  else unitsInOne ≤ units * Nat.pow 10 (-e).toNat

/-- A magnitude of so many units as digits and the exponent of the first of
them.  The first digit stands for the greatest power of ten that the magnitude
reaches, or for the next one when the digits round up to it. -/
def scientific (places : Nat) (units : Nat) (top : Int) : List Char × Int :=
  let exponents := (List.range 4).map fun (i : Nat) => top - (i : Int)
  match exponents.find? (reaches units) with
  | some e =>
    let shift := (places : Int) - e
    let n :=
      if 0 ≤ shift then divNearest (units * Nat.pow 10 shift.toNat) unitsInOne
      else divNearest units (unitsInOne * Nat.pow 10 (-shift).toNat)
    if Nat.pow 10 (places + 1) ≤ n then (decimal (n / 10), e + 1) else (decimal n, e)
  | none => (List.replicate (places + 1) '0', 0)

def exponentChars (ds : List Char) (e : Int) (alternate : Bool) : List Char :=
  let places := ds.drop 1
  let point := if places.isEmpty then (if alternate then ['.'] else []) else '.' :: places
  ds.take 1 ++ point ++ 'e' :: (if e < 0 then '-' else '+') :: padded 2 e.natAbs

/-- Without zeros after the last digit that counts, nor a point without places. -/
def trimZeros (cs : List Char) : List Char :=
  if cs.contains '.' then dropEnd (· == '.') (dropEnd (· == '0') cs) else cs

/-- The magnitude of a finite double in one of the forms `e`, `f` and `g`. -/
def magnitudeChars (form : Char) (precision : Nat) (alternate : Bool) (x : FiniteDouble) :
    List Char :=
  let top := x.topExponent + 1
  match form with
  | 'f' => fixedChars precision x.units alternate
  | 'e' =>
    let (ds, e) := scientific precision x.units top
    exponentChars ds e alternate
  | _ =>
    let p := max 1 precision
    let (ds, e) := scientific (p - 1) x.units top
    if -4 ≤ e ∧ e < p then
      let cs := fixedChars ((p : Int) - 1 - e).toNat x.units alternate
      if alternate then cs else trimZeros cs
    else
      let ds := if alternate then ds else ds.take 1 ++ dropEnd (· == '0') (ds.drop 1)
      exponentChars ds e alternate

def floatChars (f : Flags) (width : Nat) (precision : Option Nat) (letter : Char) (x : Double) :
    List Char :=
  let upper (cs : List Char) := if letter.isUpper then cs.map Char.toUpper else cs
  match x with
  | .finite y =>
    fillNumber f width y.negative []
      (upper (magnitudeChars letter.toLower (precision.getD 6) f.alternate y))
  | .infinite negative => fillNumber { f with zero := false } width negative [] (upper "inf".toList)
  | .nan _ => fillNumber { f with zero := false } width false [] (upper "nan".toList)

/-- A whole number in decimal digits; a double is cut to one. -/
def decimalOf? (v : Value) : Option Int :=
  match v with
  | .float (.finite x) => some x.truncate
  | v => wholeOf? v

/-- Only ASCII, the rest as escapes. -/
def asciiOnly (cs : List Char) : List Char :=
  cs.flatMap fun c => if c.toNat < 128 then [c] else escapedCode c.toNat

/-- The text of a value in the forms `s`, `r` and `a`. -/
def textForm? (letter : Char) (v : Value) : Option (List Char) :=
  match letter, v.display, v.quoted with
  | 's', .ok s, _ => some s.toList
  | 'r', _, .ok s => some s.toList
  | 'a', _, .ok s => some (asciiOnly s.toList)
  | _, _, _ => none

/-- The character of a value: a text of one, or a code point. -/
def charForm? (v : Value) : Option (List Char) :=
  match v with
  | .text s => if s.toList.length = 1 then some s.toList else none
  | v => do
    let n ← wholeOf? v
    if 0 ≤ n ∧ n.toNat.isValidChar then some [Char.ofNat n.toNat] else none

def format? (f : Flags) (width : Nat) (precision : Option Nat) (letter : Char) (v : Value) :
    Option (List Char) :=
  let inBase (base : Nat) (lead : List Char) : Option (List Char) := do
    let n ← wholeOf? v
    let ds := (Nat.toDigits base n.natAbs).map fun c =>
      if letter = 'X' then c.toUpper else c
    some (fillNumber f width (n < 0) (if f.alternate then lead else [])
      (atLeast (precision.getD 0) ds))
  if letter = 's' ∨ letter = 'r' ∨ letter = 'a' then do
    let cs ← textForm? letter v
    let cs := match precision with
      | some p => cs.take p
      | none => cs
    some (fillBlanks f.left width cs)
  else if letter = 'c' then (charForm? v).map (fillBlanks f.left width)
  else if letter = 'd' ∨ letter = 'i' ∨ letter = 'u' then do
    let n ← decimalOf? v
    if n.natAbs < Nat.pow 10 Fault.digitLimit then
      some (fillNumber f width (n < 0) [] (atLeast (precision.getD 0) (decimal n.natAbs)))
    else none
  else if letter = 'x' then inBase 16 ['0', 'x']
  else if letter = 'X' then inBase 16 ['0', 'X']
  else if letter = 'o' then inBase 8 ['0', 'o']
  else if ['f', 'F', 'e', 'E', 'g', 'G'].contains letter then
    (doubleOf? v).map (floatChars f width precision letter)
  else none

/-! ## Filling a template -/

/-- The arguments that are left, and the mapping that keys refer to.  A mapping
on its own can be used whole, once after each key. -/
structure Arguments where
  named : Option (List (Value × Value))
  left : List Value
  whole : Bool

def Arguments.next? (a : Arguments) : Option (Value × Arguments) :=
  match a.left with
  | v :: rest => some (v, { a with left := rest })
  | [] => none

/-- The arguments for a mark with an optional key: the entry of the key is the
only one. -/
def Arguments.select? (a : Arguments) : Option (List Char) → Option Arguments
  | none => some a
  | some key => do
    let entries ← a.named
    let v ← Value.valueAt? (String.ofList key) entries
    some { a with left := [v] }

def widthLimit : Nat := Nat.pow 2 63 - 1

def precisionLimit : Nat := Nat.pow 2 31 - 1

/-- A width or precision up to a limit, which may be an argument. -/
def Arguments.count? (limit : Nat) (a : Arguments) :
    Option (Option Nat) → Option (Option Int × Arguments)
  | none => some (none, a)
  | some (some n) => if n ≤ limit then some (some n, a) else none
  | some none => do
    let (v, a) ← a.next?
    let n ← wholeOf? v
    if n.natAbs ≤ limit then some (some n, a) else none

/-- The text of a template.  A doubled `%` stands for one.  Each step leaves a
shorter template, so its length bounds their number. -/
def fill? : Nat → Arguments → List Char → Option (List Char)
  | _, a, [] => if a.left.isEmpty || a.whole then some [] else none
  | 0, _, _ :: _ => none
  | steps + 1, a, '%' :: '%' :: cs => (fill? steps a cs).map ('%' :: ·)
  | steps + 1, a, '%' :: cs => do
    let (m, rest) ← takeMark? cs
    let a ← a.select? m.key
    let (width, a) ← a.count? widthLimit m.width
    let (precision, a) ← a.count? precisionLimit m.precision
    let (v, a) ← a.next?
    let flags :=
      match width with
      | some n => if n < 0 then { m.flags with left := true } else m.flags
      | none => m.flags
    let cs ← format? flags (width.getD 0).natAbs (precision.map Int.toNat) m.letter v
    let tail ← fill? steps a rest
    some (cs ++ tail)
  | steps + 1, a, c :: cs => (fill? steps a cs).map (c :: ·)

/-- The arguments of a message.  A single non-empty mapping is referred to by
its keys. -/
def Arguments.ofList (vs : List Value) : Arguments :=
  match vs with
  | [.dict (p :: ps)] => ⟨some (p :: ps), [.dict (p :: ps)], true⟩
  | vs => ⟨none, vs, false⟩

/-- The text of a message.  Without arguments it is no template. -/
def message? (template : String) (vs : List Value) : Option String :=
  if vs.isEmpty then some template
  else
    (fill? template.toList.length (Arguments.ofList vs) template.toList).map String.ofList

end Logging
end Facets
