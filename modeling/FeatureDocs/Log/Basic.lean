import FeatureDocs.Text.Case
import FeatureDocs.Text.Quoted

/-!
# Log

A log is the list of its entries in order. What is shown of it depends on a threshold, which is set
by the name of a level in any case.
-/

namespace FeatureDocs

namespace Log

/-- How much an entry matters. -/
inductive Level
  | debug
  | info
  | warning
  | error
  | critical
  deriving DecidableEq, Repr

/-- The number that levels are compared by. -/
def Level.number : Level → Nat
  | .debug => 10
  | .info => 20
  | .warning => 30
  | .error => 40
  | .critical => 50

/-- The name that is shown with an entry. -/
def Level.name : Level → Text
  | .debug => "DEBUG"
  | .info => "INFO"
  | .warning => "WARNING"
  | .error => "ERROR"
  | .critical => "CRITICAL"

/-- The numbers of the names that a threshold can be given by. -/
def levelNumbers : List (Text × Nat) :=
  [("NOTSET", 0), ("DEBUG", 10), ("INFO", 20), ("WARN", 30), ("WARNING", 30), ("ERROR", 40),
   ("CRITICAL", 50), ("FATAL", 50)]

/-- No level has the name. -/
structure UnknownLevel where
  name : Text

/-- The wording of the error. -/
def UnknownLevel.message (e : UnknownLevel) : Text := "Unknown level: " ++ Text.quoted e.name

/-- The number of the level with a name, which may be written in any case. -/
def levelNumber (name : Text) : Except UnknownLevel Nat :=
  match levelNumbers.lookup (Text.upper name) with
  | some n => .ok n
  | none => .error ⟨Text.upper name⟩

/-- One message. -/
structure Entry where
  level : Level
  text : Text

end Log

/-- Messages in the order in which they were given. -/
abbrev Log := List Log.Entry

namespace Log

/-- The threshold in force when a logger's own one is not set. -/
def fallbackThreshold : Nat := 30

/-- The threshold before any is set. -/
def defaultThreshold : Nat := 20

/-- What a threshold lets through. -/
def shown (threshold : Nat) (log : Log) : Log :=
  let least := if threshold = 0 then fallbackThreshold else threshold
  log.filter fun e => least ≤ e.level.number

theorem shown_append (threshold : Nat) (log more : Log) :
    shown threshold (log ++ more) = shown threshold log ++ shown threshold more := by
  simp [shown]

end Log

end FeatureDocs
