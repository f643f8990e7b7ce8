import Facets.Value.Basic

/-
When two values are one.

Numbers are compared by value across integers, doubles and booleans; sets and
mappings without regard to order; moments of different places by instant.  A list is never a
tuple, and a date never a moment.
-/
namespace Facets

/-- Amounts that are one: equal by value, or the same occurrence of what is no
number. -/
def Amount.same (a b : Amount) : Bool :=
  match a.place?, b.place? with
  | some p, some q => p == q
  | none, none => a == b
  | _, _ => false

/-- Optional bounds that are one. -/
def Range.sameBound (a b : Option Amount) : Bool :=
  match a, b with
  | some a, some b => a.same b
  | none, none => true
  | _, _ => false

namespace Value

/-- Dates and times that are one: of no place by what they show, of places as
moments. -/
def sameMoment (clock : LocalTime) (place : Option Place) (clock' : LocalTime)
    (place' : Option Place) : Bool :=
  match place, place' with
  | some p, some p' => (Moment.mk clock p).same (Moment.mk clock' p')
  | none, none => clock.micros == clock'.micros
  | _, _ => false

mutual

/-- Two values that are one when they are kept as keys or items: equal, or the
same occurrence of what is no number. -/
def same : Value → Value → Bool
  | .null, .null => true
  | .text s, .text t => s == t
  | .dateTime l p, .dateTime l' p' => sameMoment l p l' p'
  | .date d, .date d' => d == d'
  | .list xs, .list ys => sameItems xs ys
  | .tuple xs, .tuple ys => sameItems xs ys
  | .set xs, .set ys => eachIn xs ys && ys.all (someSame xs)
  | .set xs, .frozenSet ys => eachIn xs ys && ys.all (someSame xs)
  | .frozenSet xs, .set ys => eachIn xs ys && ys.all (someSame xs)
  | .frozenSet xs, .frozenSet ys => eachIn xs ys && ys.all (someSame xs)
  | .dict ps, .dict qs => eachEntryIn ps qs && qs.all (someSameEntry ps)
  | .bytes s, .bytes t => s == t
  | .boolKey b, .boolKey c => b == c
  | .mappingKey ps, .mappingKey qs => sameEntries ps qs
  | .range r, .range s => Range.sameBound r.min s.min && Range.sameBound r.max s.max
  | .bool b, v =>
    match v.amount? with
    | some a => (Amount.int (if b then 1 else 0)).same a
    | none => false
  | .int n, v =>
    match v.amount? with
    | some a => (Amount.int n).same a
    | none => false
  | .float x, v =>
    match v.amount? with
    | some a => (Amount.float x).same a
    | none => false
  | _, _ => false

/-- Items that are one, place by place. -/
def sameItems : List Value → List Value → Bool
  | [], [] => true
  | x :: xs, y :: ys => same x y && sameItems xs ys
  | _, _ => false

def someSame : List Value → Value → Bool
  | [], _ => false
  | x :: xs, y => same x y || someSame xs y

def eachIn : List Value → List Value → Bool
  | [], _ => true
  | x :: xs, ys => ys.any (same x) && eachIn xs ys

def someSameEntry : List (Value × Value) → Value × Value → Bool
  | [], _ => false
  | (k, v) :: ps, q => (same k q.1 && same v q.2) || someSameEntry ps q

def eachEntryIn : List (Value × Value) → List (Value × Value) → Bool
  | [], _ => true
  | (k, v) :: ps, qs => qs.any (fun q => same k q.1 && same v q.2) && eachEntryIn ps qs

def sameEntries : List (String × Value) → List (String × Value) → Bool
  | [], [] => true
  | (k, v) :: ps, (l, w) :: qs => k == l && same v w && sameEntries ps qs
  | _, _ => false

end

/-- The value is no number, and so equals nothing. -/
def isNaN : Value → Bool
  | .float (.nan _) => true
  | _ => false

def equal (v w : Value) : Bool := !v.isNaN && v.same w

/-- The items without repetitions, each where it first stands. -/
def distinct (items : List Value) : List Value :=
  items.foldl (fun kept v => if kept.any (·.same v) then kept else kept ++ [v]) []

/-- A mapping of the given entries.  The last value for a key counts, in the
place of the first. -/
def ofEntries (entries : List (Value × Value)) : Value :=
  .dict (entries.foldl (fun kept p => Assoc.put same p.1 p.2 kept) [])

def valueAt? (key : String) (entries : List (Value × Value)) : Option Value :=
  Assoc.find? same (.text key) entries

/-- In a mapping with texts as keys a value is found by its text. -/
theorem valueAt?_map_text (key : String) (entries : List (String × Value)) :
    valueAt? key (entries.map fun p => (.text p.1, p.2)) = Assoc.find? (· == ·) key entries := by
  unfold valueAt?
  induction entries with
  | nil => rfl
  | cons p rest ih =>
    have hsame : (Value.text p.1).same (.text key) = (p.1 == key) := by rw [same]
    rw [List.map_cons, Assoc.find?, Assoc.find?, hsame, ih]

mutual

/-- What kind of value keeps a value from being a key.  Collections that can
change are no keys, and neither is what holds one. -/
def notKey? : Value → Option String
  | .list _ => some "list"
  | .set _ => some "set"
  | .dict _ => some "dict"
  | .bytes _ => some "bytearray"
  | .range _ => some "RangeValue"
  | .tuple items => firstNotKey? items
  | .mappingKey entries => firstNotKeyNamed? entries
  | _ => none

def firstNotKey? : List Value → Option String
  | [] => none
  | v :: vs => (notKey? v).or (firstNotKey? vs)

def firstNotKeyNamed? : List (String × Value) → Option String
  | [] => none
  | (_, v) :: ps => (notKey? v).or (firstNotKeyNamed? ps)

end

def isKey (v : Value) : Bool := v.notKey?.isNone

end Value
end Facets
