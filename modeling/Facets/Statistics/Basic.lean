import Facets.Filter.Bounds
import Facets.Group.Sort
import Facets.Number.Arithmetic

/-
Statistics of collections and groups.

Only records with a number take part in sums and averages, and an average
divides by their count.
-/
namespace Facets

structure YearRange where
  min : Option Amount := none
  max : Option Amount := none
  deriving DecidableEq

structure GroupStatistics where
  count : Int := 0
  totalWords : Amount := .int 0
  averageWords : Amount := .int 0
  years : YearRange := {}
  deriving DecidableEq

/-- What is known about a whole collection: also how many records have a number
of words and a year. -/
structure CollectionStatistics extends GroupStatistics where
  withWords : Int := 0
  withYear : Int := 0
  deriving DecidableEq

structure NumericStatistics where
  count : Int := 0
  sum : Amount := .int 0
  average : Amount := .int 0
  min : Amount := .int 0
  max : Amount := .int 0
  deriving DecidableEq

structure StatisticsFields where
  words : String := "word-count"
  year : String := "year"
  deriving DecidableEq

namespace Statistics

/-- The positive zero. -/
def zero : Number.Double := .ofInt 0

/-- The average of numbers whose total is known; zero without any. -/
def averageOf (total : Amount) (count : Nat) : Except Fault Amount :=
  if count = 0 then .ok (.float zero)
  else do
    let x ← total.average count
    pure (.float x)

def extremes : List Number → Option (Number × Number)
  | [] => none
  | n :: rest => some (Number.least n rest, Number.greatest n rest)

def yearRange (years : List Number) : YearRange :=
  match extremes years with
  | none => {}
  | some (low, high) => ⟨some (.ofNumber low), some (.ofNumber high)⟩

def collect (f : StatisticsFields) (records : List Record) : Except Fault CollectionStatistics := do
  let words ← numbersOf f.words records
  let years ← numbersOf f.year records
  let total ← Amount.sum words
  let average ← averageOf total words.length
  pure
    { count := records.length, totalWords := total, averageWords := average,
      years := yearRange years, withWords := words.length, withYear := years.length }

def ofGroup (f : StatisticsFields) (records : List Record) : Except Fault GroupStatistics := do
  let s ← collect f records
  pure s.toGroupStatistics

/-- The share of a group in a collection in whole percent, rounded half up.  The
quotient is a double before it is rounded.  A collection of no records has no
shares. -/
def percentage (count total : Int) : Except Fault Int :=
  if total ≤ 0 then .ok 0
  else do
    let share ← Number.quotient count total.toNat
    ((share.scale 100).add (.ofRatio false 1 2)).floor

/-! ## One field -/

def sumOf (key : String) (records : List Record) : Except Fault Amount := do
  let ns ← numbersOf key records
  Amount.sum ns

/-- The average of a list of numbers, which is the integer zero without any. -/
def mean (ns : List Number) : Except Fault Amount :=
  if ns.isEmpty then .ok (.int 0)
  else do
    let total ← Amount.sum ns
    averageOf total ns.length

def averageField (key : String) (records : List Record) : Except Fault Amount := do
  let ns ← numbersOf key records
  mean ns

def numeric (key : String) (records : List Record) : Except Fault NumericStatistics := do
  let ns ← numbersOf key records
  match extremes ns with
  | none => pure {}
  | some (low, high) => do
    let total ← Amount.sum ns
    let average ← averageOf total ns.length
    pure ⟨ns.length, total, average, .ofNumber low, .ofNumber high⟩

def dateRange (key : String) (records : List Record) : Option (Moment × Moment) :=
  match records.filterMap fun r => (r.field key).asMoment with
  | [] => none
  | m :: rest => some (Moment.earliest m rest, Moment.latest m rest)

def countKey (key : Value) (counts : List (Value × Nat)) : List (Value × Nat) :=
  Assoc.update Value.same key (fun n => n.getD 0 + 1) counts

/-- The keys of the value of a field, each once: one for each item of a list,
and one for any other value. -/
def occurringKeys (key : String) (r : Record) : Except Fault (List Value) :=
  match r.field key with
  | .null => .ok []
  | v =>
    match v.items? with
    | some items => do
      let keys ← (items.filter fun item => !item.isEmpty).mapM Value.groupKey
      pure (Value.distinct keys)
    | none => do
      let k ← v.groupKey
      pure [k]

/-- How often each key occurs, in the order in which the keys were first met. -/
def countBy (key : String) (records : List Record) : Except Fault (List (Value × Nat)) :=
  records.foldlM (fun counts r => do
    let keys ← occurringKeys key r
    pure (keys.foldl (fun counts k => countKey k counts) counts)) []

/-- The first of the most frequent keys. -/
def firstMost : List (Value × Nat) → Option (Value × Nat)
  | [] => none
  | p :: rest => some (rest.foldl (fun most q => if most.2 < q.2 then q else most) p)

def mostCommon (key : String) (records : List Record) : Except Fault (Option Value) := do
  let counts ← countBy key records
  pure ((firstMost counts).map (·.1))

end Statistics

inductive Reduction
  | sum
  | average
  | min
  | max
  | count
  deriving DecidableEq, Repr

namespace Reduction

def all : List Reduction := [.sum, .average, .min, .max, .count]

def name : Reduction → String
  | .sum => "sum"
  | .average => "avg"
  | .min => "min"
  | .max => "max"
  | .count => "count"

def ofName (name : String) : Except Fault Reduction :=
  match all.find? (·.name == name) with
  | some r => .ok r
  | none => .error (.unknownReduction name)

/-- The numbers of a group reduced to one; zero without any. -/
def apply (op : Reduction) (ns : List Number) : Except Fault Amount :=
  match Statistics.extremes ns with
  | none => .ok (.int 0)
  | some (low, high) =>
    match op with
    | .sum => Amount.sum ns
    | .average => Statistics.mean ns
    | .min => .ok (.ofNumber low)
    | .max => .ok (.ofNumber high)
    | .count => .ok (.int ns.length)

end Reduction

namespace Statistics

open Journaled in
def reduceBy (groupKey valueKey : String) (operation : String) (records : List Record) :
    Journaled (List (Value × Amount)) := do
  let op ← lift (Reduction.ofName operation)
  let groups ← Group.byField groupKey records
  lift (groups.mapM fun g => do
    let ns ← numbersOf valueKey g.2
    let x ← op.apply ns
    pure (g.1, x))

end Statistics
end Facets
