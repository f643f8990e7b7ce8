import Facets.Field.Coerce
import Facets.Term

/-
Searches without a configured filter.
-/
namespace Facets

def withValue (key : String) (v : Value) (records : List Record) : List Record :=
  records.filter fun r => (r.field key).equal v

def withItem (key : String) (v : Value) (records : List Record) : List Record :=
  records.filter fun r =>
    match (r.field key).items? with
    | some items => items.any (·.same v)
    | none => false

/-- The moment lies between two bounds, each inclusive and each optional. -/
def Moment.isWithin (m : Moment) (lower upper : Option Moment) : Bool :=
  lower.all (fun l => !m.isBefore l) && upper.all (fun u => !u.isBefore m)

/-- The records whose date lies between two bounds.  A bound that is no date
bounds nothing, and a record without a date is left out. -/
def withDateIn (key : String) (start stop : Option Value) (records : List Record) : List Record :=
  let lower := start.bind Value.asMoment
  let upper := stop.bind Value.asMoment
  records.filter fun r =>
    match (r.field key).asMoment with
    | some m => m.isWithin lower upper
    | none => false

def withTerm (t : Term) (records : List Record) : List Record := records.filter (t.holds ·)

def withoutTerm (t : Term) (records : List Record) : List Record :=
  records.filter fun r => !t.holds r

end Facets
