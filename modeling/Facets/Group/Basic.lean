import Facets.Journal
import Facets.Field.Coerce
import Facets.Record
import Facets.Value.Key

/-
Groups of records by key, in the order in which the keys were first met.
Records without a value have the null key.
-/
namespace Facets

abbrev Groups := List (Value × List Record)

namespace Groups

def add (key : Value) (r : Record) (groups : Groups) : Groups :=
  Assoc.update Value.same key (fun members => members.getD [] ++ [r]) groups

/-- One more member of the group of a key, unless it is the last one already.
A record whose list repeats an item is a member once. -/
def addOnce (key : Value) (r : Record) (groups : Groups) : Groups :=
  Assoc.update Value.same key (fun members =>
    let members := members.getD []
    if members.getLast?.any fun last => last.serial == r.serial then members
    else members ++ [r]) groups

def flatten (groups : Groups) : List Record := groups.flatMap (·.2)

/-- The keys of records with a value. -/
def keys (groups : Groups) : List Value :=
  (groups.map (·.1)).filter fun
    | .null => false
    | _ => true

end Groups

namespace Group

def byKey (keyOf : Record → Except Fault Value) (records : List Record) : Except Fault Groups :=
  records.foldlM (fun groups r => do
    let key ← keyOf r
    pure (groups.add key r)) []

open Journaled in
/-- Groups by the value of a field.  Each record is in one of them. -/
def byField (key : String) (records : List Record) : Journaled Groups := do
  let groups ← lift (byKey (fun r => (r.field key).groupKey) records)
  note .grouping .debug s!"Grouped by {Text.quoted key} into {groups.length} groups"
  pure groups

/-- A record in the group of each of its items. -/
def addItems (r : Record) : List Value → Groups → Except Fault Groups
  | [], groups => .ok groups
  | v :: vs, groups =>
    if v.isEmpty then addItems r vs groups
    else do
      let key ← v.groupKey
      addItems r vs (groups.addOnce key r)

/-- Groups by each item of a list field.  A record is in as many groups as its
list has different items. -/
def byItem (key : String) (records : List Record) : Except Fault Groups :=
  records.foldlM (fun groups r =>
    match (r.field key).items? with
    | some items => addItems r items groups
    | none => .ok groups) []

def monthText (m : Moment) : String := String.ofList (Calendar.monthChars m.clock.date)

/-- The record with the key of its month.  A value that is no date has none. -/
def monthKey? (key : String) (r : Record) : Option Value :=
  match r.field key with
  | .null => none
  | v => v.asMoment.map fun m => .text (monthText m)

def monthNotBefore (p q : Value × List Record) : Bool :=
  match p.1, q.1 with
  | .text s, .text t => t ≤ s
  | _, _ => true

/-- Groups by the month of a date field, the greatest text first.  Records
without a value come last; those whose value is no date are left out. -/
def byMonth (key : String) (records : List Record) : Groups :=
  let months := records.foldl (fun (groups : Groups) r =>
    match monthKey? key r with
    | some month => groups.add month r
    | none => groups) []
  let undated := records.filter fun r =>
    match r.field key with
    | .null => true
    | _ => false
  months.mergeSort monthNotBefore ++ (if undated.isEmpty then [] else [(.null, undated)])

/-- Groups by a key that the caller chooses.  A value that cannot be a key is a
fault. -/
def byChoice (keyOf : Record → Value) (records : List Record) : Except Fault Groups :=
  byKey (fun r =>
    let key := keyOf r
    match key.notKey? with
    | some kind => .error (.notAKey kind)
    | none => .ok key) records

end Group
end Facets
