import Facets.Text.Quoted

namespace Facets

/-- One finding of an input check: where it stands, which rule it breaks, and
the rule in words. -/
structure InputIssue where
  place : List String
  rule : String
  message : String
  deriving DecidableEq, Repr

/-- Why an operation has no answer.  Everything else that can go wrong with
stored data or configuration is an ordinary result: no value, or an issue. -/
inductive Fault
  /-- A decimal numeral of this many digits is longer than numerals may be. -/
  | numeralTooLong (digits : Nat)
  /-- An integer whose decimal text would be longer than numerals may be. -/
  | integerTooLong
  /-- An integer beyond the finite doubles met a double. -/
  | integerBeyondDouble
  /-- The quotient of two integers lies beyond the finite doubles. -/
  | quotientBeyondDouble
  /-- An infinite quotient has no whole part. -/
  | infiniteQuotient
  /-- A value of this kind cannot be a key. -/
  | notAKey (kind : String)
  /-- A value of this kind has no such operation. -/
  | noOperation (kind operation : String)
  /-- No order of groups has this name. -/
  | unknownGroupOrder (name : String)
  /-- No reduction has this name. -/
  | unknownReduction (name : String)
  /-- Pages hold at least one item. -/
  | emptyPages (size : Int)
  /-- The text is no size in bytes. -/
  | invalidSize (text : String)
  /-- The letters of a size are matched, but are no unit when written in upper
  case. -/
  | unknownUnit (unit : String)
  /-- Settings that are each well formed but contradict what the engine needs. -/
  | inconsistentSettings (problems : List String)
  /-- Input that does not have the required form. -/
  | malformed (issues : List InputIssue)
  /-- The name of a level stands for a text that names no level. -/
  | unknownLevel (text : String)
  deriving DecidableEq, Repr

namespace Fault

/-- The longest decimal numeral that is read or written, in digits. -/
def digitLimit : Nat := 4300

def issueLine (i : InputIssue) : String :=
  String.intercalate "|" [String.intercalate "." i.place, i.rule, i.message]

def message : Fault → String
  | numeralTooLong n =>
    s!"Exceeds the limit ({digitLimit} digits) for integer string conversion: value has {n} digits; use sys.set_int_max_str_digits() to increase the limit"
  | integerTooLong =>
    s!"Exceeds the limit ({digitLimit} digits) for integer string conversion; use sys.set_int_max_str_digits() to increase the limit"
  | integerBeyondDouble => "int too large to convert to float"
  | quotientBeyondDouble => "integer division result too large for a float"
  | infiniteQuotient => "cannot convert float infinity to integer"
  | notAKey kind => "unhashable type: '" ++ kind ++ "'"
  | noOperation kind operation => "'" ++ kind ++ "' object has no attribute '" ++ operation ++ "'"
  | unknownGroupOrder name =>
    "Unknown group sort mode " ++ Text.quoted name ++
      ". Supported: alphabetical, count-desc, count-asc"
  | unknownReduction name =>
    "Unknown aggregate operation " ++ Text.quoted name ++ ". Supported: sum, avg, min, max, count"
  | emptyPages size => s!"items_per_page must be > 0, got {size}"
  | invalidSize text => "Invalid size format: " ++ Text.quoted text ++ ". Use e.g. '10MB'."
  | unknownUnit unit => Text.quoted unit
  | inconsistentSettings problems => String.intercalate "; " problems
  | malformed issues => String.intercalate "; " (issues.map issueLine)
  | unknownLevel text => "Unknown level: " ++ Text.quoted text

end Fault
end Facets
