import Facets.Query.Config
import Facets.Reading.Schema

/-
Queries and settings from input.
-/
namespace Facets
namespace Reading

def groupOrder : Reader GroupOrder := choice GroupOrder.all GroupOrder.name

def queryConfig : Reader QueryConfig := members "QueryConfig" fun place ms =>
  (fun filters state sortField descending groupField groupOrder words year includeGroups
      includeStatistics page pageSize =>
    { filters, state, sortField, descending, groupField, groupOrder, words, year, includeGroups,
      includeStatistics, page, pageSize : QueryConfig }) <$>
    optional "filters" (listOf filterDefinition) [] place ms <*>
    optional "filter_state" mapping [] place ms <*>
    optional "sort_field" (nullable text) none place ms <*>
    optional "sort_descending" flag false place ms <*>
    optional "group_by_field" (nullable text) none place ms <*>
    optional "group_sort_mode" (nullable groupOrder) none place ms <*>
    optional "word_count_field" (nullable text) none place ms <*>
    optional "year_field" (nullable text) none place ms <*>
    optional "include_groups" flag true place ms <*>
    optional "include_statistics" flag true place ms <*>
    optional "page" (nullable integer) none place ms <*>
    optional "page_size" (nullable integer) none place ms

def inkedKey : Reader { s : String // HasInk s } := fun place v =>
  (text place v).andThen fun s =>
    if h : HasInk s then .ok ⟨s, h⟩
    else refuse place "value_error" "Value error, field key must not be blank"

/-- The parts of a path in their normal form: neither empty nor the place
itself. -/
def pathParts (cs : List Char) : List (List Char) :=
  (cs.splitOn '/').filter fun part => part ≠ [] ∧ part ≠ ['.']

/-- A path in its normal form.  Exactly two slashes in front are kept. -/
def normalPath (s : String) : String :=
  let cs := s.toList
  let slashes := (cs.takeWhile (· == '/')).length
  let root := if slashes = 0 then "" else if slashes = 2 then "//" else "/"
  let body := String.intercalate "/" ((pathParts cs).map String.ofList)
  if root = "" ∧ body = "" then "." else root ++ body

def path : Reader String := fun place v =>
  match v with
  | .text s => .ok (normalPath s)
  | _ => refuse place "path_type" "Input is not a valid path"

def settingsLevels : List Level := [.debug, .info, .warning, .error]

/-- Settings as they are given, before they are compared with what the engine
needs. -/
structure GivenSettings where
  words : { s : String // HasInk s }
  year : { s : String // HasInk s }
  groupOrder : GroupOrder
  pageSize : Int
  arrayLimit : Int
  grouped : Bool
  logLevel : Level
  logFormat : LogFormat
  logFile : Option String
  logRotation : String
  logRetention : Int

def givenSettings (ms : Members) : Checked GivenSettings :=
  GivenSettings.mk <$>
    optional "default_word_count_field" inkedKey ⟨"word-count", by decide⟩ [] ms <*>
    optional "default_year_field" inkedKey ⟨"year", by decide⟩ [] ms <*>
    optional "default_group_sort_mode" groupOrder .largestFirst [] ms <*>
    optional "default_page_size" integer 50 [] ms <*>
    optional "array_display_limit" integer 3 [] ms <*>
    optional "group_thousands" flag true [] ms <*>
    optional "log_level" (choice settingsLevels Level.name) .info [] ms <*>
    optional "log_format" (choice LogFormat.all LogFormat.name) .json [] ms <*>
    optional "log_file" (nullable path) none [] ms <*>
    optional "log_rotation" text "10MB" [] ms <*>
    optional "log_retention" integer 30 [] ms

def GivenSettings.consistent (g : GivenSettings) : Except Fault Settings :=
  if h : 0 < g.pageSize ∧ 0 ≤ g.arrayLimit ∧ 0 ≤ g.logRetention then
    .ok
      { words := g.words.1, year := g.year.1, groupOrder := g.groupOrder, pageSize := g.pageSize,
        arrayLimit := g.arrayLimit, grouped := g.grouped, logLevel := g.logLevel,
        logFormat := g.logFormat, logFile := g.logFile, logRotation := g.logRotation,
        logRetention := g.logRetention, words_ink := g.words.2, year_ink := g.year.2,
        pageSize_pos := h.1, arrayLimit_nonneg := h.2.1, logRetention_nonneg := h.2.2 }
  else .error (.inconsistentSettings (Settings.problems g.pageSize g.arrayLimit g.logRetention))

/-- The members that environment variables give, by their names in lower case.
The last of several spellings counts. -/
def environmentMembers (env : List (String × String)) : Members :=
  env.foldl (fun ms p =>
    Assoc.put Value.same (.text (String.ofList (p.1.toList.map Char.toLower))) (.text p.2) ms) []

/-- Settings from overrides and environment variables.  Overrides come first. -/
def settings (overrides : Members) (env : List (String × String)) : Except Fault Settings := do
  let given := overrides.foldl (fun ms p => Assoc.put Value.same p.1 p.2 ms) (environmentMembers env)
  let g ← (givenSettings given).toExcept
  g.consistent

end Reading
end Facets
