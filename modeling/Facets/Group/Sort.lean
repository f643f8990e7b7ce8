import Facets.Group.Basic

namespace Facets

inductive GroupOrder
  | alphabetical
  | largestFirst
  | smallestFirst
  deriving DecidableEq, Repr

namespace GroupOrder

def all : List GroupOrder := [.alphabetical, .largestFirst, .smallestFirst]

def name : GroupOrder → String
  | .alphabetical => "alphabetical"
  | .largestFirst => "count-desc"
  | .smallestFirst => "count-asc"

def ofName (name : String) : Except Fault GroupOrder :=
  match all.find? (·.name == name) with
  | some o => .ok o
  | none => .error (.unknownGroupOrder name)

end GroupOrder

namespace Groups

/-- What groups are listed by: whether the key is null, the fold of its text,
and the text. -/
structure ListingKey where
  isNull : Bool
  folded : List Char
  text : List Char
  deriving DecidableEq

/-- The order of listing keys: the null key last, the others by fold and then by
text. -/
def ListingKey.compare (a b : ListingKey) : Ordering :=
  ((Ord.compare a.isNull b.isNull).then (Ord.compare a.folded b.folded)).then
    (Ord.compare a.text b.text)

def listingKey (key : Value) : Except Fault ListingKey := do
  let text ← key.keyText
  let isNull :=
    match key with
    | .null => true
    | _ => false
  pure ⟨isNull, Text.casefold text.toList, text.toList⟩

/-- Groups in the given order.  Groups that the order does not tell apart stay in
the order in which their keys were met. -/
def sort (o : GroupOrder) (groups : Groups) : Except Fault Groups :=
  match o with
  | .alphabetical => do
    let listed ← groups.mapM fun g => do
      let key ← listingKey g.1
      pure (key, g)
    pure ((listed.mergeSort fun p q => p.1.compare q.1 != .gt).map (·.2))
  | .largestFirst => .ok (groups.mergeSort fun g h => h.2.length ≤ g.2.length)
  | .smallestFirst => .ok (groups.mergeSort fun g h => g.2.length ≤ h.2.length)

/-- Groups in the order of this name. -/
def sortByName (name : String) (groups : Groups) : Except Fault Groups := do
  let o ← GroupOrder.ofName name
  groups.sort o

end Groups
end Facets
