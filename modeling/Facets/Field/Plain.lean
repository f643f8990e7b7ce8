import Facets.Field.Coerce
import Facets.Text.Casefold
import Facets.Text.Label

/-
The plain text of values, on which searching and the order of texts rest.
-/
namespace Facets

/-- The label inside an entry. -/
def entryLabel (s : String) : String := String.ofList (Text.label s.toList)

def joined (parts : List String) : String := String.intercalate ", " parts

/-- The plain text of a typed value: no separators in numbers, the labels of
references, and the keys of mappings. -/
def Typed.plain : Typed → Except Fault String
  | .text s => .ok s
  | .number n => n.plain
  | .flag b => .ok (if b then "true" else "false")
  | .moment m => .ok (String.ofList (Calendar.isoDateChars m.clock.date))
  | .items vs => do
    let parts ← vs.mapM Value.display
    pure (joined parts)
  | .labels ls => .ok (joined (ls.map entryLabel))
  | .mapping ps => do
    let keys ← ps.mapM fun p => p.1.display
    pure (joined keys)

/-- The plain text of a stored value as a type.  No value has the empty text. -/
def Kind.plain (k : Kind) (v : Value) : Except Fault String := do
  match ← k.coerce v with
  | some t => t.plain
  | none => pure ""

/-- The plain text of a stored value as the type of this name.  As an unknown type
it has the empty text. -/
def Value.plainAs (tag : String) (v : Value) : Except Fault String := do
  match ← v.coerceTo tag with
  | some t => t.plain
  | none => pure ""

theorem Value.plainAs_tag (k : Kind) (v : Value) : v.plainAs k.tag = k.plain v := by
  rw [plainAs, coerceTo_tag, Kind.plain]

def Kind.folded (k : Kind) (v : Value) : Except Fault (List Char) := do
  let text ← k.plain v
  pure (Text.casefold text.toList)

end Facets
