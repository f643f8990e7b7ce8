namespace Facets

/-- The types a field can be declared with. -/
inductive Kind
  | string
  | number
  | boolean
  | date
  | array
  | labels
  | object
  deriving DecidableEq, Repr

namespace Kind

def all : List Kind := [.string, .number, .boolean, .date, .array, .labels, .object]

def tag : Kind → String
  | .string => "string"
  | .number => "number"
  | .boolean => "boolean"
  | .date => "date"
  | .array => "array"
  | .labels => "labeled-reference-array"
  | .object => "object"

def ofTag? (tag : String) : Option Kind := all.find? (·.tag == tag)

/-- Every type is read back from its name, so names are distinct. -/
theorem ofTag?_tag (k : Kind) : ofTag? k.tag = some k := by
  cases k <;> decide

def isArray : Kind → Bool
  | .array | .labels => true
  | _ => false

end Kind
end Facets
