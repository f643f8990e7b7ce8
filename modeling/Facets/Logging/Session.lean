import Facets.Logging.Files
import Facets.Logging.Line
import Facets.Logging.Size
import Facets.Reading.Query

/-
Logging set up and used: where lines go, from which level on, and in what
context.
-/
namespace Facets
namespace Logging

/-- The name above all loggers. -/
def rootLogger : String := "catalogquery"

/-- Letters outside ASCII whose upper case is in ASCII. -/
def upperOutside : List (Char × List Char) :=
  [('\u00DF', ['S', 'S']), ('\u0131', ['I']), ('\u017F', ['S']), ('\uFB00', ['F', 'F']),
   ('\uFB01', ['F', 'I']), ('\uFB02', ['F', 'L']), ('\uFB03', ['F', 'F', 'I']),
   ('\uFB04', ['F', 'F', 'L']), ('\uFB05', ['S', 'T']), ('\uFB06', ['S', 'T'])]

/-- The name in upper case, as far as names of levels are concerned. -/
def upperName (s : String) : String :=
  String.ofList (s.toList.flatMap fun c =>
    match upperOutside.find? (·.1 == c) with
    | some p => p.2
    | none => [c.toUpper])

def thresholds : List (String × Nat) :=
  [("CRITICAL", 50), ("DEBUG", 10), ("ERROR", 40), ("FATAL", 50), ("INFO", 20), ("NOTSET", 0),
   ("WARN", 30), ("WARNING", 30)]

/-- The name that stands for the form of lines, which is no level. -/
def formName : String := "BASIC_FORMAT"

def formText : String := "%(levelname)s:%(name)s:%(message)s"

/-- The threshold with a name in any case; an unknown name stands for `INFO`. -/
def threshold (name : String) : Except Fault Nat :=
  let name := upperName name
  if name = formName then .error (.unknownLevel formText)
  else .ok (((thresholds.find? (·.1 == name)).map (·.2)).getD 20)

structure Setup where
  level : String := "INFO"
  form : LogFormat := .json
  file : Option String := none
  rotation : Value := .text "10MB"
  retention : Int := 30

def Setup.ofSettings (d : Settings) : Setup :=
  { level := d.logLevel.name, form := d.logFormat, file := d.logFile,
    rotation := .text d.logRotation, retention := d.logRetention }

/-- The size that a value stands for: an integer is a number of bytes. -/
def sizeOf (v : Value) : Except Fault Int :=
  match v with
  | .int n => .ok n
  | .bool b => .ok (if b then 1 else 0)
  | .text s => do
    let n ← parseSize s
    pure n
  | v => .error (.noOperation v.kindName "strip")

/-- What has been set up, and what has been written.  Before the first set-up
nothing is written. -/
structure State where
  threshold : Nat := 0
  form : Option LogFormat := none
  file : Option LogFile := none
  context : Context := {}
  files : Files := []

namespace State

/-- Set logging up anew.  What comes before a fault stays done: the level is
set, and lines go to the console. -/
def setUp (s : Setup) (st : State) : State × Except Fault Unit :=
  match Logging.threshold s.level with
  | .error e => (st, .error e)
  | .ok n =>
    let st := { st with threshold := n, form := some s.form, file := none }
    match s.file with
    | none | some "" => (st, .ok ())
    | some path =>
      match sizeOf s.rotation with
      | .error e => (st, .error e)
      | .ok maxBytes =>
        let file : LogFile := ⟨Reading.normalPath path, maxBytes, s.retention⟩
        ({ st with file := some file, files := st.files.ensure file.path }, .ok ())

/-- The event is written: it has the level, which is `WARNING` where none is
set. -/
def lets (st : State) (level : Level) : Bool :=
  (if st.threshold = 0 then 30 else st.threshold) ≤ level.rank

/-- Log an event: the text that goes to the console, and the state after it.  An
event without a text leaves no trace. -/
def log (now : Moment) (e : Event) (st : State) : State × String :=
  match st.form with
  | none => (st, "")
  | some form =>
    if st.lets e.level then
      match line form now st.context e with
      | none => (st, "")
      | some l =>
        let files :=
          match st.file with
          | some f => f.append l st.files
          | none => st.files
        ({ st with files }, l ++ "\n")
    else (st, "")

end State
end Logging
end Facets
