import Facets.Field.Coerce
import Facets.Record
import Facets.Value.Equality

namespace Facets

/-- One field of a schema: what it is called, its type, and what may be done
with it. -/
structure Field where
  key : String
  label : String
  kind : Kind
  visible : Bool := true
  sortable : Bool := true
  filterable : Bool := true
  sortOrder : Int := 0
  description : Option String := none
  deriving DecidableEq

structure CoreFields where
  title : String := "title"
  id : Option String := none
  status : Option String := none
  deriving DecidableEq

structure Schema where
  name : String
  fields : List Field
  core : CoreFields
  distinct : (fields.map Field.key).Nodup

namespace Schema

def field? (s : Schema) (key : String) : Option Field := s.fields.find? (·.key == key)

def hasField (s : Schema) (key : String) : Bool := (s.field? key).isSome

def kind? (s : Schema) (key : String) : Option Kind := (s.field? key).map (·.kind)

def filterable (s : Schema) : List Field := s.fields.filter (·.filterable)

def sortable (s : Schema) : List Field := s.fields.filter (·.sortable)

/-- The visible fields by their order number; fields of one number keep the
order of the schema. -/
def visible (s : Schema) : List Field :=
  (s.fields.filter (·.visible)).mergeSort fun f g => f.sortOrder ≤ g.sortOrder

end Schema

namespace Record

def typed (r : Record) (f : Field) : Except Fault (Option Typed) := f.kind.coerce (r.field f.key)

/-- Set each field of a list that has a usable value in the data. -/
def fill (raw : List (Value × Value)) : List Field → Record → Except Fault Record
  | [], r => .ok r
  | f :: rest, r => do
    match ← f.kind.coerce ((Value.valueAt? f.key raw).getD .null) with
    | some t => fill raw rest (r.setField f.key t.toValue)
    | none => fill raw rest r

/-- A record of the fields of a schema from raw data.  Values are coerced once;
those that cannot be used are left out. -/
def build (serial : Nat) (raw : List (Value × Value)) (id path : String) (s : Schema) :
    Except Fault Record :=
  fill raw s.fields ⟨serial, id, path, .empty⟩

/-- The identity and every field of a schema, null where there is no value. -/
def fullEntries (r : Record) (s : Schema) : List (String × Value) :=
  s.fields.foldl (fun kept f => Assoc.put (· == ·) f.key (r.field f.key) kept) r.identityEntries

end Record
end Facets
