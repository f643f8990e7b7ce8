import Facets.Field.Plain

/-
Values for display.  Nothing is compared or searched in this form.
-/
namespace Facets

def emptyDisplay : String := "-"

def ellipsis : String := "..."

/-- The first items up to a count.  A negative count leaves out items at the
end. -/
def takeCount {α : Type} (count : Int) (items : List α) : List α :=
  if 0 ≤ count then items.take count.toNat else items.take (items.length - (-count).toNat)

/-- Entries in one line, those beyond a limit replaced by an ellipsis. -/
def joinLimited (limit : Option Int) (parts : List String) : String :=
  match limit with
  | none => joined parts
  | some n =>
    if n < parts.length then joined (takeCount n parts ++ [ellipsis]) else joined parts

/-- How much of a value is shown: the number of array entries, all without a
limit, and whether digits are grouped. -/
structure DisplayOptions where
  limit : Option Int := none
  grouped : Bool := true

namespace Value

def formatText (v : Value) : Except Fault String :=
  if v.isEmpty then .ok emptyDisplay else v.display

def formatNumber (grouped : Bool) (v : Value) : Except Fault String := do
  match ← v.asNumber with
  | some n => n.display grouped
  | none => pure emptyDisplay

def formatDate (v : Value) : String :=
  match v.asMoment with
  | some m => String.ofList (Calendar.displayDateChars m.clock.date)
  | none => emptyDisplay

def formatFlag (v : Value) : String :=
  match v.asFlag with
  | some b => if b then "Yes" else "No"
  | none => emptyDisplay

def formatItems (limit : Option Int) (v : Value) : Except Fault String :=
  match v.items? with
  | none | some [] => .ok emptyDisplay
  | some items => do
    let parts ← items.mapM display
    pure (joinLimited limit parts)

/-- Entries by their labels.  An entry with an empty label is not shown. -/
def formatLabels (limit : Option Int) (v : Value) : Except Fault String :=
  match v.items? with
  | none | some [] => .ok emptyDisplay
  | some items => do
    let parts ← items.mapM display
    let labels := (parts.map entryLabel).filter (· ≠ "")
    pure (if labels.isEmpty then emptyDisplay else joinLimited limit labels)

def formatMapping (v : Value) : Except Fault String :=
  match v with
  | .null => .ok emptyDisplay
  | .dict [] => .ok "[Object]"
  | .dict entries => do
    let keys ← entries.mapM fun p => p.1.display
    pure ("[Object: " ++ joined keys ++ "]")
  | .text s => .ok (if s = "" then emptyDisplay else s)
  | v => v.display

end Value

namespace Kind

/-- A value for display as this type, whether or not it counts as empty. -/
def formatDirect (k : Kind) (o : DisplayOptions) (v : Value) : Except Fault String :=
  match k with
  | .string => v.formatText
  | .number => v.formatNumber o.grouped
  | .boolean => .ok v.formatFlag
  | .date => .ok v.formatDate
  | .array => v.formatItems o.limit
  | .labels => v.formatLabels o.limit
  | .object => v.formatMapping

def format (k : Kind) (o : DisplayOptions) (v : Value) : Except Fault String :=
  if v.isEmpty then .ok emptyDisplay else k.formatDirect o v

end Kind

/-- A value for display as the type of this name.  As an unknown type it is shown
like an empty one. -/
def Value.formatAs (tag : String) (o : DisplayOptions) (v : Value) : Except Fault String :=
  match Kind.ofTag? tag with
  | some k => k.format o v
  | none => .ok emptyDisplay

theorem Value.formatAs_tag (k : Kind) (o : DisplayOptions) (v : Value) :
    v.formatAs k.tag o = k.format o v := by
  rw [formatAs, Kind.ofTag?_tag]

end Facets
