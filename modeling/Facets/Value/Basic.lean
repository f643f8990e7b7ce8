import Facets.Assoc
import Facets.Calendar.Moment
import Facets.Range

namespace Facets

/-- A value that a record may store or a caller may choose.  The items of a set
and the keys of a mapping are pairwise different. -/
inductive Value
  | null
  | bool (b : Bool)
  | int (n : Int)
  | float (x : Number.Double)
  | text (s : String)
  | dateTime (clock : LocalTime) (place : Option Place)
  | date (d : Date)
  | list (items : List Value)
  | tuple (items : List Value)
  | set (items : List Value)
  | frozenSet (items : List Value)
  | dict (entries : List (Value × Value))
  | bytes (latin : String)
  /-- The group key of a boolean, kept apart from the numbers 1 and 0. -/
  | boolKey (b : Bool)
  /-- The group key of a mapping: its entries sorted by the text of their keys. -/
  | mappingKey (entries : List (String × Value))
  | range (r : Range)

namespace Value

/-- No value: null, the empty text and every empty collection. -/
def isEmpty : Value → Bool
  | .null => true
  | .text s => s == ""
  | .list items | .tuple items | .set items | .frozenSet items => items.isEmpty
  | .dict entries => entries.isEmpty
  | _ => false

/-- A number in a value.  Booleans count as 1 and 0 wherever values are compared. -/
def amount? : Value → Option Amount
  | .bool b => some (.int (if b then 1 else 0))
  | .int n => some (.int n)
  | .float x => some (.float x)
  | _ => none

def items? : Value → Option (List Value)
  | .list items | .tuple items => some items
  | _ => none

/-- What kind of value it is, as faults name it. -/
def kindName : Value → String
  | .null => "NoneType"
  | .bool _ => "bool"
  | .int _ => "int"
  | .float _ => "float"
  | .text _ => "str"
  | .dateTime _ _ => "datetime.datetime"
  | .date _ => "datetime.date"
  | .list _ => "list"
  | .tuple _ => "tuple"
  | .set _ => "set"
  | .frozenSet _ => "frozenset"
  | .dict _ => "dict"
  | .bytes _ => "bytearray"
  | .boolKey _ => "BoolKey"
  | .mappingKey _ => "MappingKey"
  | .range _ => "RangeValue"

/-- A numeral of either form as a value. -/
def ofNumber : Number → Value
  | .int n => .int n
  | .float x => .float (.finite x)

def ofAmount : Amount → Value
  | .int n => .int n
  | .float x => .float x

def ofMoment (m : Moment) : Value := .dateTime m.clock (some m.place)

end Value
end Facets
