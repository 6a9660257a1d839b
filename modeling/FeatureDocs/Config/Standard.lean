import FeatureDocs.Config.Basic
import FeatureDocs.Json.Reader
import FeatureDocs.Text.Case

/-!
# Readers of files

One way in which the files of settings may be written: data in JSON, and variables on lines of their
own. A blank text describes nothing. Variables that have a value keep it, and one of them turns the
others off.
-/

namespace FeatureDocs

/-! ### Data -/

/-- The data that a JSON document describes. -/
def Value.ofJson : Json → Value
  | .null => .null
  | .bool b => .bool b
  | .int i => .int i
  | .decimal negative digits exponent =>
    let size := Float.ofScientific digits (exponent < 0) exponent.natAbs
    .real (if negative then -size else size).toBits
  | .text t => .text t
  | .array items => .list (ofItems items)
  | .object members => .mapping (Mapping.ofList (ofMembers members))
where
  /-- The values of items. -/
  ofItems : List Json → List Value
    | [] => []
    | j :: js => Value.ofJson j :: ofItems js
  /-- The entries of members. -/
  ofMembers : List (Text × Json) → List (Key × Value)
    | [] => []
    | (name, j) :: ms => (.text name, Value.ofJson j) :: ofMembers ms

namespace Config.Readers

/-- The data that a text describes. -/
def readData (t : Text) : Except Content.Error Value :=
  if Text.isBlank (Content.dropMark t) then .ok .null
  else
    match Json.read? (Content.dropMark t) with
    | some j => .ok (Value.ofJson j)
    | none => .error .notData

/-! ### Variables -/

/-- The variable that a line defines. -/
def variableOf? (line : Text) : Option (Text × Text) :=
  (Text.cut? "=" line).map fun (name, value) => (Text.trim name, Text.trim value)

/-- The variables that a file defines. -/
def definitions : Content → Except Content.Error (Mapping Text Text)
  | .bytes bs => (Content.decode bs).map fun t => (Text.lines t).filterMap variableOf?
  | .variables vs => .ok vs
  | .data _ => .ok []

/-- The variables that the file at a path defines, if there is one. -/
def definitionsAt (t : Tree) (p : Path) : Except Tree.Error (Mapping Text Text) :=
  match t.lookUp p with
  | .error e => .error e
  | .ok (some (.file c)) => (definitions c).mapError .content
  | .ok (some .directory) | .ok (some .sink) | .ok none => .ok []

/-- The variable that turns the variables of files off. -/
def switchVariable : Text := "PYTHON_DOTENV_DISABLED"

/-- Whether the value of a variable means yes. -/
def meansYes (value : Text) : Bool :=
  ["1", "true", "t", "yes", "y"].contains (Text.asString (Text.lower (Text.upper value)))

/-- The environment with variables set that have no value yet, up to the first that cannot be
set. -/
def addMissing (env : Environment) : Mapping Text Text → Environment × Option Environment.Error
  | [] => (env, none)
  | (name, value) :: rest =>
    if Mapping.contains env name then addMissing env rest
    else
      match env.set name value with
      | .ok env => addMissing env rest
      | .error e => (env, some e)

/-- The environment with the variables of a file, unless they are turned off. -/
def readVariables (t : Tree) (p : Path) (env : Environment) : Environment × Option Error :=
  if (Mapping.get? env switchVariable).any meansYes then (env, none)
  else
    match definitionsAt t p with
    | .error e => (env, some (.file e))
    | .ok vs => ((addMissing env vs).1, (addMissing env vs).2.map .variable)

/-- Data in JSON, and variables on lines of their own. -/
def standard : Readers := ⟨readData, readVariables⟩

end Config.Readers

end FeatureDocs
