import Facets.Record
import Facets.Value.Equality

namespace Facets

/-- The value counts as true: it is not empty, not zero and not false. -/
def Value.isTrue : Value → Bool
  | .null => false
  | .bool b => b
  | .int n => n != 0
  | .float (.finite x) => x.units != 0
  | .text s => s != ""
  | .list vs | .tuple vs | .set vs | .frozenSet vs => !vs.isEmpty
  | .dict ps => !ps.isEmpty
  | .bytes latin => latin != ""
  | _ => true

/-- What a caller may ask of a record. -/
inductive Term
  | has (field : String)
  | equals (field : String) (v : Value)
  | field (name : String)
  | id
  | const (v : Value)

namespace Term

def eval (r : Record) : Term → Value
  | .has f => .bool (r.hasField f)
  | .equals f v => .bool ((r.field f).equal v)
  | .field f => r.field f
  | .id => .text r.id
  | .const v => v

def holds (r : Record) (t : Term) : Bool := (t.eval r).isTrue

end Term
end Facets
