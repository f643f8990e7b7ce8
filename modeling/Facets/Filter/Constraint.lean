import Facets.Field.Plain
import Facets.Filter.Bounds

/-
What a filter with a chosen value demands of a record.
-/
namespace Facets

/-- A demand on one field. -/
inductive Constraint
  /-- The typed value equals the expected one. -/
  | equals (key : String) (kind : Kind) (expected : Value)
  /-- The typed value is one of the expected ones. -/
  | oneOf (key : String) (kind : Kind) (expected : List Value)
  /-- Some entry, or the label in it, is one of the targets. -/
  | holds (key : String) (targets : List String)
  /-- The number lies in the range. -/
  | within (key : String) (range : Range)
  /-- The plain text contains the query, case aside. -/
  | contains (key : String) (kind : Kind) (query : List Char)

namespace Constraint

def someTarget (targets : List String) : List Value → Except Fault Bool
  | [] => .ok false
  | v :: vs => do
    let text ← v.display
    if targets.contains text || targets.contains (entryLabel text) then pure true
    else someTarget targets vs

def admits (r : Record) : Constraint → Except Fault Bool
  | .equals key kind expected => do
    let t ← kind.coerce (r.field key)
    pure (((t.map Typed.toValue).getD .null).equal expected)
  | .oneOf key kind expected => do
    match ← kind.coerce (r.field key) with
    | some t => pure (expected.any (·.same t.toValue))
    | none => pure false
  | .holds key targets =>
    match (r.field key).items? with
    | some items => someTarget targets items
    | none => .ok false
  | .within key range => do
    match ← (r.field key).asNumber with
    | some n => pure (range.contains (.ofNumber n))
    | none => pure false
  | .contains key kind query => do
    let text ← kind.folded (r.field key)
    pure (Text.isPart query text)

/-- The record meets all demands.  Those after the first that is not met are not
looked at. -/
def admitsAll (r : Record) : List Constraint → Except Fault Bool
  | [] => .ok true
  | c :: cs => do
    if ← c.admits r then admitsAll r cs else pure false

end Constraint
end Facets
