import Facets.Calendar.Printer
import Facets.Number.Text
import Facets.Value.Basic

/-
Values as text.  On its own a text stands for itself; inside a collection it is
quoted.  The only values without a text are those that hold an integer whose
digits exceed the limit.
-/
namespace Facets

def Amount.text : Amount → Except Fault String
  | .int n => Number.integerText n
  | .float x => .ok x.text

def Range.boundText : Option Amount → Except Fault String
  | none => .ok "None"
  | some a => a.text

def Range.text (separator : String) (r : Range) : Except Fault String := do
  let low ← boundText r.min
  let high ← boundText r.max
  pure ("min=" ++ low ++ separator ++ "max=" ++ high)

namespace Value

def call (name : String) (arguments : List String) : String :=
  name ++ "(" ++ String.intercalate ", " arguments ++ ")"

/-- The parts of a time of day, without zeros at the end after the minutes. -/
def timeArguments (t : TimeOfDay) : List String :=
  let parts := [toString t.hour, toString t.minute]
  if t.microsecond ≠ 0 then parts ++ [toString t.second, toString t.microsecond]
  else if t.second ≠ 0 then parts ++ [toString t.second]
  else parts

/-- An offset in days, seconds and microseconds, those that are zero left out.
Only the days can be negative. -/
def offsetArguments (o : Offset) : List String :=
  let days := Int.fdiv o.micros Calendar.microsInDay
  let rest := (Int.fmod o.micros Calendar.microsInDay).toNat
  let part (name : String) (n : Int) : List String :=
    if n = 0 then [] else [name ++ "=" ++ toString n]
  let parts :=
    part "days" days ++ part "seconds" (rest / 1000000 : Nat) ++
      part "microseconds" (rest % 1000000 : Nat)
  if parts.isEmpty then ["0"] else parts

def offsetNotation (o : Offset) : String :=
  if o.micros = 0 then "datetime.timezone.utc"
  else call "datetime.timezone" [call "datetime.timedelta" (offsetArguments o)]

def dateArguments (d : Date) : List String := [toString d.year, toString d.month, toString d.day]

def placeNotation : Place → String
  | .fixed o => offsetNotation o
  | .zone z => call "zoneinfo.ZoneInfo" ["key=" ++ Text.quoted z.name]

def dateTimeNotation (l : LocalTime) (place : Option Place) : String :=
  let fold := if l.later then ["fold=1"] else []
  let zone :=
    match place with
    | none => []
    | some p => ["tzinfo=" ++ placeNotation p]
  call "datetime.datetime" (dateArguments l.date ++ timeArguments l.time ++ fold ++ zone)

/-- A byte inside quotes.  The apostrophe is escaped inside quotes of either
kind. -/
def byteChars (c : Char) : List Char :=
  if c = '\'' ∨ c = '\\' then ['\\', c]
  else if c = '\t' then ['\\', 't']
  else if c = '\n' then ['\\', 'n']
  else if c = '\r' then ['\\', 'r']
  else if ' ' ≤ c ∧ c.toNat < 0x7F then [c]
  else '\\' :: 'x' :: Text.hexPadded 2 c.toNat

def bytesNotation (latin : String) : String :=
  let quote := Text.quoteFor latin.toList
  call "bytearray"
    [String.ofList ('b' :: quote :: latin.toList.flatMap byteChars ++ [quote])]

def bracketed (opening : String) (items : List String) (closing : String) : String :=
  opening ++ String.intercalate ", " items ++ closing

/-- Items of a tuple; a single one is followed by a comma. -/
def tupleNotation (items : List String) : String :=
  match items with
  | [item] => "(" ++ item ++ ",)"
  | _ => bracketed "(" items ")"

mutual

/-- The notation of a value, as it stands inside a collection. -/
def quoted : Value → Except Fault String
  | .null => .ok "None"
  | .bool b => .ok (if b then "True" else "False")
  | .int n => Number.integerText n
  | .float x => .ok x.text
  | .text s => .ok (Text.quoted s)
  | .dateTime l p => .ok (dateTimeNotation l p)
  | .date d => .ok (call "datetime.date" (dateArguments d))
  | .list items => do
    let parts ← quotedItems items
    pure (bracketed "[" parts "]")
  | .tuple items => do
    let parts ← quotedItems items
    pure (tupleNotation parts)
  | .set items => do
    let parts ← quotedItems items
    pure (if parts.isEmpty then "set()" else bracketed "\x7b" parts "\x7d")
  | .frozenSet items => do
    let parts ← quotedItems items
    pure (if parts.isEmpty then "frozenset()" else bracketed "frozenset(\x7b" parts "\x7d)")
  | .dict entries => do
    let parts ← quotedEntries entries
    pure (bracketed "\x7b" parts "\x7d")
  | .bytes latin => .ok (bytesNotation latin)
  | .boolKey b => .ok (call "BoolKey" [if b then "value=True" else "value=False"])
  | .mappingKey entries => do
    let parts ← quotedNamed entries
    pure (call "MappingKey" ["items=" ++ tupleNotation parts])
  | .range r => do
    let bounds ← r.text ", "
    pure (call "RangeValue" [bounds])

def quotedItems : List Value → Except Fault (List String)
  | [] => .ok []
  | v :: vs => do
    let part ← quoted v
    let parts ← quotedItems vs
    pure (part :: parts)

def quotedEntries : List (Value × Value) → Except Fault (List String)
  | [] => .ok []
  | (k, v) :: ps => do
    let key ← quoted k
    let value ← quoted v
    let parts ← quotedEntries ps
    pure ((key ++ ": " ++ value) :: parts)

def quotedNamed : List (String × Value) → Except Fault (List String)
  | [] => .ok []
  | (k, v) :: ps => do
    let value ← quoted v
    let parts ← quotedNamed ps
    pure (tupleNotation [Text.quoted k, value] :: parts)

end

theorem quotedItems_eq_mapM (items : List Value) : quotedItems items = items.mapM quoted := by
  induction items with
  | nil => rfl
  | cons v vs ih => rw [quotedItems, List.mapM_cons, ih]

theorem quotedEntries_eq_mapM (entries : List (Value × Value)) :
    quotedEntries entries = entries.mapM (fun p => p.1.quoted >>= fun key =>
      p.2.quoted >>= fun value => pure (key ++ ": " ++ value)) := by
  induction entries with
  | nil => rfl
  | cons p ps ih =>
    rw [quotedEntries, List.mapM_cons, ih]
    simp only [bind_assoc, pure_bind]

theorem quotedNamed_eq_mapM (entries : List (String × Value)) :
    quotedNamed entries = entries.mapM (fun p => p.2.quoted >>= fun value =>
      pure (tupleNotation [Text.quoted p.1, value])) := by
  induction entries with
  | nil => rfl
  | cons p ps ih =>
    rw [quotedNamed, List.mapM_cons, ih]
    simp only [bind_assoc, pure_bind]

def display : Value → Except Fault String
  | .text s => .ok s
  | .dateTime l p => .ok (String.ofList (Calendar.dateTimeChars ' ' l (p.map (·.offsetAt l))))
  | .date d => .ok (String.ofList (Calendar.isoDateChars d))
  | .range r => r.text " "
  | v => v.quoted

end Value
end Facets
