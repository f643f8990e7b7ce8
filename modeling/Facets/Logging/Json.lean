import Facets.Value.Display

/-
Values as JSON text in ASCII.  What JSON has no form for is written as the
string of its text.
-/
namespace Facets
namespace Logging

open Text

def unitEscape (n : Nat) : List Char := '\\' :: 'u' :: hexPadded 4 n

def jsonChar (c : Char) : List Char :=
  if c = '"' ∨ c = '\\' then ['\\', c]
  else if c = '\n' then ['\\', 'n']
  else if c = '\r' then ['\\', 'r']
  else if c = '\t' then ['\\', 't']
  else if c = '\x0c' then ['\\', 'f']
  else if c = '\x08' then ['\\', 'b']
  else if ' ' ≤ c ∧ c ≤ '~' then [c]
  else if c.toNat < 0x10000 then unitEscape c.toNat
  else
    let n := c.toNat - 0x10000
    unitEscape (0xD800 + n / 0x400) ++ unitEscape (0xDC00 + n % 0x400)

def jsonString (s : String) : String :=
  String.ofList ('"' :: s.toList.flatMap jsonChar ++ ['"'])

def jsonDouble : Number.Double → String
  | .finite x => String.ofList x.chars
  | .infinite negative => if negative then "-Infinity" else "Infinity"
  | .nan _ => "NaN"

/-- The name of an entry: texts, numbers, truth values and null have one. -/
def jsonName : Value → Option String
  | .text s => some s
  | .float x => some (jsonDouble x)
  | .bool b => some (if b then "true" else "false")
  | .null => some "null"
  | .int n => (Number.integerText n).toOption
  | _ => none

/-- Whether entries are put in the order of their names. -/
inductive EntryOrder
  | asGiven
  | byName
  deriving DecidableEq

/-- The order of two names, which numbers have among themselves and texts among
themselves. -/
def nameOrder? (a b : Value) : Option Ordering :=
  match a, b with
  | .text s, .text t => some (compare s.toList t.toList)
  | a, b =>
    match a.amount?, b.amount? with
    | some x, some y =>
      some (if x.below y then .lt else if y.below x then .gt else .eq)
    | _, _ => none

/-- Entries in the order asked for, if their names have one. -/
def orderEntries (o : EntryOrder) (entries : List (Value × String)) :
    Option (List (Value × String)) :=
  match o with
  | .asGiven => some entries
  | .byName =>
    if entries.all fun p => entries.all fun q =>
        entries.length == 1 || (nameOrder? p.1 q.1).isSome then
      some (entries.mergeSort fun p q => nameOrder? p.1 q.1 != some .gt)
    else none

def jsonMembers (members : List (String × String)) : String :=
  "\x7b" ++ String.intercalate ", " (members.map fun p => jsonString p.1 ++ ": " ++ p.2) ++ "\x7d"

mutual

/-- The JSON text of a value, if it has one: names must be simple, and integers
within the limit. -/
def json (o : EntryOrder) : Value → Option String
  | .null => some "null"
  | .bool b => some (if b then "true" else "false")
  | .int n => (Number.integerText n).toOption
  | .float x => some (jsonDouble x)
  | .text s => some (jsonString s)
  | .list vs => do
    let parts ← jsonItems o vs
    some (Value.bracketed "[" parts "]")
  | .tuple vs => do
    let parts ← jsonItems o vs
    some (Value.bracketed "[" parts "]")
  | .dict ps => do
    let parts ← jsonEntries o ps
    let ordered ← orderEntries o parts
    let named ← ordered.mapM fun p => (jsonName p.1).map fun name => (name, p.2)
    some (jsonMembers named)
  | v => v.display.toOption.map jsonString

def jsonItems (o : EntryOrder) : List Value → Option (List String)
  | [] => some []
  | v :: vs => do
    let part ← json o v
    let parts ← jsonItems o vs
    some (part :: parts)

def jsonEntries (o : EntryOrder) : List (Value × Value) → Option (List (Value × String))
  | [] => some []
  | (k, v) :: ps => do
    let part ← json o v
    let parts ← jsonEntries o ps
    some ((k, part) :: parts)

end

end Logging
end Facets
