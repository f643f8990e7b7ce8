import Facets.Calendar.Printer
import Facets.Journal
import Facets.Logging.Context
import Facets.Logging.Json
import Facets.Logging.Template
import Facets.Settings
import Facets.Term

/-
Log lines: an event in its context, as JSON or as plain text.
-/
namespace Facets
namespace Logging

structure Event where
  logger : String
  level : Level
  template : String
  arguments : List Value := []
  data : Option Value := none
  failure : Option String := none

/-- The text of a failure by its class and message.  The message of a missing
key is the key. -/
def failureText (kind message : String) : String :=
  let text := if kind = "KeyError" then Text.quoted message else message
  if text = "" then kind else kind ++ ": " ++ text

/-- The data that is written: none when it counts as false. -/
def Event.shownData (e : Event) : Option Value := e.data.filter (·.isTrue)

def jsonLine (now : Moment) (c : Context) (e : Event) : Option String := do
  let text ← message? e.template e.arguments
  let data ←
    match e.shownData with
    | none => some []
    | some v => (json .asGiven v).map fun s => [("data", s)]
  let timestamp := String.ofList (Calendar.dateTimeChars 'T' now.clock (some now.offset))
  let context := c.entries.map fun p => (p.1, jsonString p.2)
  some (jsonMembers
    ([("timestamp", jsonString timestamp), ("level", jsonString e.level.name),
      ("logger", jsonString e.logger), ("message", jsonString text)] ++
     (if context.isEmpty then [] else [("context", jsonMembers context)]) ++ data ++
     (match e.failure with
      | none => []
      | some s => [("exception", jsonString s)])))

def lineTime (now : Moment) : String :=
  let t := now.clock.time
  String.ofList
    (Calendar.displayDateChars now.clock.date ++ ' ' :: Calendar.clockChars t.hour t.minute t.second)

def textLine (now : Moment) (c : Context) (e : Event) : Option String := do
  let text ← message? e.template e.arguments
  let data ←
    match e.shownData with
    | none => some []
    | some v => (json .byName v).map fun s => [s]
  let part (s : Option String) (f : String → String) : List String :=
    match s with
    | some s => if s = "" then [] else [f s]
    | none => []
  let level := String.ofList (fillBlanks true 8 e.level.name.toList)
  let line := String.intercalate " "
    ([lineTime now, "[" ++ level ++ "]", e.logger] ++ part c.query (fun s => "[" ++ s ++ "]") ++
     part c.stage (fun s => "(" ++ s ++ ")") ++ ["- " ++ text] ++ data)
  some (match e.failure with
    | none => line
    | some s => line ++ "\n" ++ s)

def line (form : LogFormat) (now : Moment) (c : Context) (e : Event) : Option String :=
  match form with
  | .json => jsonLine now c e
  | .text => textLine now c e

end Logging
end Facets
