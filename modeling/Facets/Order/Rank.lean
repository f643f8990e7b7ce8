import Facets.Field.Plain

/-
Where values stand in the order of their type.

Texts are ordered by their fold and mappings by the fold of their keys; every
other type is ordered by one number: numbers by value, truth values with false
first, moments by their timestamp and lists by their length alone.
-/
namespace Facets

/-- A place in the order of a type. -/
inductive Rank
  | text (folded : List Char)
  | level (n : Int)
  deriving DecidableEq

/-- The order of places.  Within one type all places are of one form. -/
def Rank.compare : Rank → Rank → Ordering
  | .text s, .text t => Ord.compare s t
  | .level m, .level n => Ord.compare m n
  | .text _, .level _ => .lt
  | .level _, .text _ => .gt

def Typed.rank (t : Typed) : Except Fault Rank :=
  match t with
  | .text s => .ok (.text (Text.casefold s.toList))
  | .number n => .ok (.level n.scaled)
  | .flag b => .ok (.level (if b then 1 else 0))
  | .moment m => .ok (.level m.timestamp)
  | .items vs => .ok (.level vs.length)
  | .labels ls => .ok (.level ls.length)
  | .mapping _ => do
    let text ← t.plain
    pure (.text (Text.casefold text.toList))

/-- The order of two stored values as a type.  A value that cannot be used comes
after every value that can. -/
def Kind.compare (k : Kind) (a b : Value) : Except Fault Ordering := do
  let x ← k.coerce a
  let y ← k.coerce b
  match x, y with
  | none, none => pure .eq
  | none, some _ => pure .gt
  | some _, none => pure .lt
  | some x, some y => do
    let p ← x.rank
    let q ← y.rank
    pure (p.compare q)

/-- The order of two stored values as the type of this name.  As an unknown type
all values are equal. -/
def Value.compareAs (tag : String) (a b : Value) : Except Fault Ordering :=
  match Kind.ofTag? tag with
  | some k => k.compare a b
  | none => .ok .eq

theorem Value.compareAs_tag (k : Kind) (a b : Value) : a.compareAs k.tag b = k.compare a b := by
  rw [compareAs, Kind.ofTag?_tag]

end Facets
