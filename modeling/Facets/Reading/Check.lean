import Facets.Fault
import Facets.Value.Display
import Facets.Value.Equality

/-
Checking input.

A check either accepts a value or says everything that is wrong with it, each
finding with its place.  Checks of several parts are put together so that no
finding of one part hides those of another.
-/
namespace Facets
namespace Reading

/-- What a check makes of its input. -/
inductive Checked (α : Type)
  | ok (a : α)
  | refused (issues : List InputIssue)

namespace Checked

variable {α β : Type}

/-- Both parts, or the findings of both. -/
protected def seq (f : Checked (α → β)) (x : Unit → Checked α) : Checked β :=
  match f, x () with
  | .ok f, .ok a => .ok (f a)
  | .ok _, .refused issues => .refused issues
  | .refused issues, .ok _ => .refused issues
  | .refused issues, .refused more => .refused (issues ++ more)

instance : Applicative Checked where
  pure := .ok
  seq := Checked.seq

def andThen (x : Checked α) (f : α → Checked β) : Checked β :=
  match x with
  | .ok a => f a
  | .refused issues => .refused issues

/-- Findings are a fault of the operation that needed the input. -/
def toExcept : Checked α → Except Fault α
  | .ok a => .ok a
  | .refused issues => .error (.malformed issues)

end Checked

/-- Where a value stands in the input, from the outside in. -/
abbrev Place := List String

abbrev Reader (α : Type) := Place → Value → Checked α

abbrev Members := List (Value × Value)

def refuse {α : Type} (place : Place) (rule message : String) : Checked α :=
  .refused [⟨place, rule, message⟩]

def required {α : Type} (name : String) (read : Reader α) (place : Place) (ms : Members) :
    Checked α :=
  match Value.valueAt? name ms with
  | some v => read (place ++ [name]) v
  | none => refuse (place ++ [name]) "missing" "Field required"

def optional {α : Type} (name : String) (read : Reader α) (default : α) (place : Place)
    (ms : Members) : Checked α :=
  match Value.valueAt? name ms with
  | some v => read (place ++ [name]) v
  | none => .ok default

def nullable {α : Type} (read : Reader α) : Reader (Option α) := fun place v =>
  match v with
  | .null => .ok none
  | v => some <$> read place v

/-- The members of a structured input, which is known by a name. -/
def members {α : Type} (name : String) (read : Place → Members → Checked α) : Reader α :=
  fun place v =>
    match v with
    | .dict ms => read place ms
    | _ => refuse place "model_type"
        ("Input should be a valid dictionary or instance of " ++ name)

def eachItem {α : Type} (read : Reader α) (place : Place) : Nat → List Value → Checked (List α)
  | _, [] => .ok []
  | i, v :: vs =>
    (fun a as => a :: as) <$> read (place ++ [toString i]) v <*> eachItem read place (i + 1) vs

def listOf {α : Type} (read : Reader α) : Reader (List α) := fun place v =>
  match v with
  | .list vs | .tuple vs | .set vs | .frozenSet vs => eachItem read place 0 vs
  | _ => refuse place "list_type" "Input should be a valid list"

def alternatives (names : List String) : String :=
  match names.reverse with
  | [] => ""
  | [last] => Text.quoted last
  | last :: rest =>
    String.intercalate ", " (rest.reverse.map Text.quoted) ++ " or " ++ Text.quoted last

def choice {α : Type} (all : List α) (name : α → String) : Reader α := fun place v =>
  let found :=
    match v with
    | .text s => all.find? fun a => name a == s
    | _ => none
  match found with
  | some a => .ok a
  | none => refuse place "literal_error" ("Input should be " ++ alternatives (all.map name))

/-- The name of an entry at whose key something is wrong. -/
def keyPlace : Value → String
  | .text s => s
  | v =>
    match v.quoted with
    | .ok s => s
    | .error _ => ""

def namedEntries (place : Place) : List (Value × Value) → Checked (List (String × Value))
  | [] => .ok []
  | (k, v) :: rest =>
    let name :=
      match k with
      | .text s => Checked.ok s
      | .bytes s => .ok s
      | k => refuse (place ++ [keyPlace k, "[key]"]) "string_type" "Input should be a valid string"
    (fun name more => (name, v) :: more) <$> name <*> namedEntries place rest

def mapping : Reader (List (String × Value)) := fun place v =>
  match v with
  | .dict ps => namedEntries place ps
  | _ => refuse place "dict_type" "Input should be a valid dictionary"

end Reading
end Facets
