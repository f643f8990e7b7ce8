import Facets.Fault

/-
What an operation notes while it works.

A journaled operation has an outcome, which may be a fault, and the entries
noted up to there.  The outcome of a sequence depends on the outcomes of its
parts alone, so statements about results never mention entries.
-/
namespace Facets

inductive Level
  | debug
  | info
  | warning
  | error
  | critical
  deriving DecidableEq, Repr

namespace Level

def name : Level → String
  | .debug => "DEBUG"
  | .info => "INFO"
  | .warning => "WARNING"
  | .error => "ERROR"
  | .critical => "CRITICAL"

def all : List Level := [.debug, .info, .warning, .error, .critical]

def ofName? (name : String) : Option Level := all.find? (·.name == name)

def rank : Level → Nat
  | .debug => 10
  | .info => 20
  | .warning => 30
  | .error => 40
  | .critical => 50

end Level

inductive Engine
  | filters
  | sorting
  | grouping
  | queries
  deriving DecidableEq, Repr

def Engine.logger : Engine → String
  | .filters => "catalogquery.query.filters"
  | .sorting => "catalogquery.query.sorting"
  | .grouping => "catalogquery.query.grouping"
  | .queries => "catalogquery.api.facade"

/-- A line of a journal, with the stage of the query it was noted in. -/
structure Entry where
  level : Level
  logger : String
  message : String
  stage : Option String
  deriving DecidableEq, Repr

/-- An outcome, and what was noted on the way. -/
structure Journaled (α : Type) where
  entries : List Entry
  outcome : Except Fault α

namespace Journaled

variable {α β : Type}

protected def pure (a : α) : Journaled α := ⟨[], .ok a⟩

/-- Go on after success.  A fault ends the journal. -/
protected def bind (x : Journaled α) (f : α → Journaled β) : Journaled β :=
  match x.outcome with
  | .ok a => ⟨x.entries ++ (f a).entries, (f a).outcome⟩
  | .error e => ⟨x.entries, .error e⟩

instance : Monad Journaled where
  pure := Journaled.pure
  bind := Journaled.bind

def lift (x : Except Fault α) : Journaled α := ⟨[], x⟩

instance : MonadLift (Except Fault) Journaled := ⟨lift⟩

def note (engine : Engine) (level : Level) (message : String) : Journaled Unit :=
  ⟨[⟨level, engine.logger, message, none⟩], .ok ()⟩

/-- Entries noted without a stage belong to this one. -/
def atStage (stage : String) (x : Journaled α) : Journaled α :=
  ⟨x.entries.map fun e => { e with stage := e.stage.or (some stage) }, x.outcome⟩

@[simp]
theorem outcome_pure (a : α) : (pure a : Journaled α).outcome = .ok a := rfl

@[simp]
theorem outcome_bind (x : Journaled α) (f : α → Journaled β) :
    (x >>= f).outcome = x.outcome >>= fun a => (f a).outcome := by
  change (Journaled.bind x f).outcome = _
  unfold Journaled.bind
  cases x.outcome <;> rfl

@[simp]
theorem outcome_lift (x : Except Fault α) : (lift x).outcome = x := rfl

@[simp]
theorem outcome_liftM (x : Except Fault α) : (liftM x : Journaled α).outcome = x := rfl

@[simp]
theorem outcome_note (engine : Engine) (level : Level) (message : String) :
    (note engine level message).outcome = .ok () := rfl

@[simp]
theorem outcome_atStage (stage : String) (x : Journaled α) :
    (x.atStage stage).outcome = x.outcome := rfl

end Journaled
end Facets
