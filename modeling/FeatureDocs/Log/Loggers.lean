import FeatureDocs.Log.Basic
import FeatureDocs.Mapping
import FeatureDocs.Text.Terminal

/-!
# Loggers

Loggers are known by dotted names. The ones of this program share a threshold that can be changed
for all of them at once; each has a handler that colours the name of the level.
-/

namespace FeatureDocs.Log

/-- A logger: its own threshold, its handlers, and whether its ancestors see its entries too. -/
structure Logger where
  level : Nat
  handlers : Nat
  propagates : Bool

/-- A logger that nobody has set up. -/
def Logger.fresh : Logger := ⟨0, 0, true⟩

/-- The loggers by name. -/
abbrev Loggers := Mapping Text Logger

namespace Loggers

/-- The names of the loggers that exist from the start. -/
def programNames : List Text :=
  ["featurespec.core.config_manager", "featurespec.parser.feature_loader",
   "featurespec.parser.feature_parser", "featurespec.parser.keywords",
   "featurespec.parser.step_registry", "featurespec.reports.summary_reporter", "run"]

/-- The first parts of the names of the loggers that share one threshold. -/
def programRoots : List Text := ["featurespec", "run", "__main__"]

/-- The name of the ancestor of all loggers. -/
def rootName : Text := "root"

/-- The loggers at the start. -/
def initial : Loggers :=
  (rootName, ⟨fallbackThreshold, 0, true⟩) ::
    programNames.map fun name => (name, ⟨defaultThreshold, 1, false⟩)

/-- The name under which a logger is kept: an empty name means the ancestor of all. -/
def keyOf (name : Text) : Text := if name.isEmpty then rootName else name

/-- The logger of a name, which comes into being when it is asked for. -/
def fetch (ls : Loggers) (name : Text) : Logger × Loggers :=
  match Mapping.get? ls (keyOf name) with
  | some l => (l, ls)
  | none => (.fresh, Mapping.insert ls (keyOf name) .fresh)

/-- The variable that gives the level of a logger that is set up without one. -/
def levelVariable : Text := "FEATURESPEC_LOG_LEVEL"

/-- The name of the level that a logger is set up with: the one that is asked for, else the one of
the environment. -/
def levelName (asked : Option Text) (environment : Mapping Text Text) : Text :=
  match asked.filter (!·.isEmpty) with
  | some name => name
  | none => (Mapping.get? environment levelVariable).getD "INFO"

/-- Give a logger a handler, if it has none, and the threshold of the given name. The handler stays
also when no level has the name. -/
def setUp (ls : Loggers) (name level : Text) : Except UnknownLevel Logger × Loggers :=
  let (l, ls) := ls.fetch name
  let l : Logger := if l.handlers = 0 then { l with handlers := 1, propagates := false } else l
  match levelNumber level with
  | .ok n =>
    let l : Logger := { l with level := n }
    (.ok l, Mapping.insert ls (keyOf name) l)
  | .error e => (.error e, Mapping.insert ls (keyOf name) l)

/-- Whether a logger is one of the program's own. -/
def isProgramName (name : Text) : Bool :=
  name != rootName && ((Text.splitOn '.' name).head?.any fun part => programRoots.contains part)

/-- Give all loggers of the program the threshold of the given name. -/
def setLevel (ls : Loggers) (level : Text) : Except UnknownLevel Loggers :=
  match levelNumber level with
  | .ok n =>
    .ok (ls.map fun (name, l) => (name, if isProgramName name then { l with level := n } else l))
  | .error e => .error e

end Loggers

/-! ### Colours -/

/-- The colour of a level, if it has one. -/
def colour (number : Nat) : Text :=
  match number with
  | 10 => Text.select "36"
  | 20 => Text.select "32"
  | 30 => Text.select "33"
  | 40 => Text.select "31"
  | 50 => Text.select "31" ++ Text.select "1"
  | _ => []

/-- A line of the log: the logger, the coloured name of the level and the message. -/
def line (logger : Text) (number : Nat) (levelName message : Text) : Text :=
  Text.join " - " [logger, colour number ++ levelName ++ Text.select "0", message]

end FeatureDocs.Log
