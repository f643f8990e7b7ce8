import Facets.Assoc
import Facets.Value.Display

namespace Facets

/-- The values stored under names, in the order in which the names were first
given. -/
structure Fields where
  entries : List (String × Value)
  distinct : (entries.map Prod.fst).Nodup

namespace Fields

def empty : Fields := ⟨[], List.nodup_nil⟩

/-- The value under a name, empty ones included. -/
def get? (f : Fields) (key : String) : Option Value := Assoc.find? (· == ·) key f.entries

/-- Store a value.  A name already there keeps its place. -/
def set (f : Fields) (key : String) (v : Value) : Fields :=
  ⟨Assoc.put (· == ·) key v f.entries, Assoc.nodup_keys_update f.distinct⟩

def remove (f : Fields) (key : String) : Fields :=
  ⟨Assoc.erase (· == ·) key f.entries, Assoc.nodup_keys_erase f.distinct⟩

def ofEntries (entries : List (String × Value)) : Fields :=
  entries.foldl (fun f p => f.set p.1 p.2) empty

end Fields

/-- One entry of a collection: who it is, and what it stores.  The serial number
tells apart two records with the same contents. -/
structure Record where
  serial : Nat
  id : String
  path : String
  fields : Fields

namespace Record

/-- The value of a field.  A field that is absent and one that holds an empty
value both have none. -/
def field (r : Record) (key : String) : Value :=
  match r.fields.get? key with
  | some v => if v.isEmpty then .null else v
  | none => .null

def hasField (r : Record) (key : String) : Bool := !(r.field key).isEmpty

def setField (r : Record) (key : String) (v : Value) : Record :=
  { r with fields := r.fields.set key v }

def removeField (r : Record) (key : String) : Record :=
  { r with fields := r.fields.remove key }

/-- Add an item to the end of the list that a field holds.  Only lists grow. -/
def appendItem (r : Record) (key : String) (v : Value) : Except Fault Record :=
  match r.fields.get? key with
  | some (.list items) => .ok (r.setField key (.list (items ++ [v])))
  | stored => .error (.noOperation (stored.getD .null).kindName "append")

/-- Who the record is, as the first entries of an export. -/
def identityEntries (r : Record) : List (String × Value) :=
  [("id", .text r.id), ("path", .text r.path)]

/-- The identity and every field with a value.  A field of the name of an
identity entry takes that entry's place. -/
def toEntries (r : Record) : List (String × Value) :=
  (r.fields.entries.filter fun p => !p.2.isEmpty).foldl
    (fun kept p => Assoc.put (· == ·) p.1 p.2 kept) r.identityEntries

def notice (r : Record) : String :=
  Value.call "Record"
    ["id=" ++ Text.quoted r.id, "path=" ++ Text.quoted r.path,
     "fields=" ++ toString r.fields.entries.length]

end Record
end Facets
