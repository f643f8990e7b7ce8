import Facets.Calendar.Reader
import Facets.Field.Kind
import Facets.Number.Numeral
import Facets.Value.Display

/-
Coercion of stored values to the declared type of their field.

What cannot be used as the type is no value at all.  The only faults come from
numerals and integers whose digits exceed the limit.
-/
namespace Facets

/-- A value of a declared type.  Numbers are finite, moments have a place, and
labels are texts. -/
inductive Typed
  | text (s : String)
  | number (n : Number)
  | flag (b : Bool)
  | moment (m : Moment)
  | items (vs : List Value)
  | labels (ls : List String)
  | mapping (ps : List (Value × Value))

namespace Typed

def toValue : Typed → Value
  | .text s => .text s
  | .number n => Value.ofNumber n
  | .flag b => .bool b
  | .moment m => Value.ofMoment m
  | .items vs => .list vs
  | .labels ls => .list (ls.map .text)
  | .mapping ps => .dict ps

def kind : Typed → Kind
  | .text _ => .string
  | .number _ => .number
  | .flag _ => .boolean
  | .moment _ => .date
  | .items _ => .array
  | .labels _ => .labels
  | .mapping _ => .object

end Typed

namespace Value

/-- The finite number in a value that is a number, booleans excluded. -/
def finite? : Value → Option Number
  | .int n => some (.int n)
  | .float (.finite x) => some (.float x)
  | _ => none

/-- The text of a value that is used as one: texts, booleans and finite
numbers have one. -/
def asText : Value → Except Fault (Option String)
  | .text s => .ok (if s = "" then none else some s)
  | .bool b => .ok (some (if b then "true" else "false"))
  | .int n => (Number.plain (.int n)).map some
  | .float (.finite x) => (Number.plain (.float x)).map some
  | _ => .ok none

/-- The number that a value stands for. -/
def asNumber : Value → Except Fault (Option Number)
  | .int n => .ok (some (.int n))
  | .float (.finite x) => .ok (some (.float x))
  | .text s => Number.ofText s
  | _ => .ok none

/-- The truth value that a value stands for.  The words are matched whatever
their case. -/
def asFlag : Value → Option Bool
  | .bool b => some b
  | .text s =>
    let word := (Text.strip s.toList).map Char.toLower
    if ["true".toList, "1".toList, "yes".toList].contains word then some true
    else if ["false".toList, "0".toList, "no".toList].contains word then some false
    else none
  | _ => none

/-- The moment that a value stands for.  A date begins at midnight, what has no
place is universal time, and numbers count milliseconds since 1970. -/
def asMoment : Value → Option Moment
  | .dateTime clock place => some ⟨clock, place.getD .utc⟩
  | .date d => some ⟨.startOf d, .utc⟩
  | .int n => Moment.ofMillis? (.int n)
  | .float (.finite x) => Moment.ofMillis? (.float x)
  | .text s => Moment.ofText? (Text.strip s.toList)
  | _ => none

/-- The items of a value that is used as a list.  A single text is its own only
item; any other scalar is one by its text, which what is no finite number
lacks. -/
def asItems (v : Value) : Except Fault (Option (List Value)) :=
  match v with
  | .list items | .tuple items => .ok (if items.isEmpty then none else some items)
  | .text s => .ok (if s = "" then none else some [.text s])
  | .bool _ | .int _ | .float _ => do
    let text ← v.asText
    match text with
    | some s => pure (some [.text s])
    | none => pure (some [.null])
  | _ => .ok none

/-- The texts of the non-empty items of a value that is used as a list. -/
def asLabels (v : Value) : Except Fault (Option (List String)) := do
  let items ← v.asItems
  match items with
  | none => pure none
  | some items => do
    let labels ← (items.filter fun item => !item.isEmpty).mapM display
    pure (if labels.isEmpty then none else some labels)

def asMapping : Value → Option (List (Value × Value))
  | .dict entries => if entries.isEmpty then none else some entries
  | _ => none

end Value

namespace Kind

/-- A value as this type, whether or not it counts as empty. -/
def convert (k : Kind) (v : Value) : Except Fault (Option Typed) :=
  match k with
  | .string => do
    let s ← v.asText
    pure (s.map .text)
  | .number => do
    let n ← v.asNumber
    pure (n.map .number)
  | .boolean => .ok (v.asFlag.map .flag)
  | .date => .ok (v.asMoment.map .moment)
  | .array => do
    let items ← v.asItems
    pure (items.map .items)
  | .labels => do
    let labels ← v.asLabels
    pure (labels.map .labels)
  | .object => .ok (v.asMapping.map .mapping)

/-- A stored value as this type.  An empty value is no value of any type. -/
def coerce (k : Kind) (v : Value) : Except Fault (Option Typed) :=
  if v.isEmpty then .ok none else k.convert v

end Kind

/-- A stored value as the type of this name.  It is no value of an unknown type. -/
def Value.coerceTo (tag : String) (v : Value) : Except Fault (Option Typed) :=
  match Kind.ofTag? tag with
  | some k => k.coerce v
  | none => .ok none

theorem Value.coerceTo_tag (k : Kind) (v : Value) : v.coerceTo k.tag = k.coerce v := by
  rw [coerceTo, Kind.ofTag?_tag]

end Facets
