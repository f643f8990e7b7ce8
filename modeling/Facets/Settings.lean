import Facets.Field.Format
import Facets.Group.Sort
import Facets.Text.Blank

namespace Facets

inductive LogFormat
  | json
  | text
  deriving DecidableEq, Repr

namespace LogFormat

def all : List LogFormat := [.json, .text]

def name : LogFormat → String
  | .json => "json"
  | .text => "text"

end LogFormat

/-- A field key has some character that is not blank. -/
def HasInk (s : String) : Prop := Text.strip s.toList ≠ []

instance (s : String) : Decidable (HasInk s) := inferInstanceAs (Decidable (_ ≠ _))

/-- What holds wherever a query does not say otherwise, and how to log. -/
structure Settings where
  words : String := "word-count"
  year : String := "year"
  groupOrder : GroupOrder := .largestFirst
  pageSize : Int := 50
  arrayLimit : Int := 3
  grouped : Bool := true
  logLevel : Level := .info
  logFormat : LogFormat := .json
  logFile : Option String := none
  logRotation : String := "10MB"
  logRetention : Int := 30
  words_ink : HasInk words := by decide
  year_ink : HasInk year := by decide
  pageSize_pos : 0 < pageSize := by decide
  arrayLimit_nonneg : 0 ≤ arrayLimit := by decide
  logRetention_nonneg : 0 ≤ logRetention := by decide

namespace Settings

/-- How values are shown.  A limit of zero is no limit. -/
def displayOptions (d : Settings) : DisplayOptions :=
  { limit := if d.arrayLimit = 0 then none else some d.arrayLimit, grouped := d.grouped }

def problems (pageSize arrayLimit logRetention : Int) : List String :=
  (if pageSize ≤ 0 then ["DEFAULT_PAGE_SIZE must be > 0"] else []) ++
    (if arrayLimit < 0 then ["ARRAY_DISPLAY_LIMIT must be >= 0"] else []) ++
    (if logRetention < 0 then ["LOG_RETENTION must be >= 0"] else [])

end Settings
end Facets
