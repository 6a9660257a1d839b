import FeatureDocs.Config.Layers
import FeatureDocs.Config.Variables
import FeatureDocs.Files.Tree
import FeatureDocs.Log.Basic

/-!
# Configuration

The settings of a run come in layers: the defaults, a main file, the overrides of an environment's
file and the rest of that file. Variables are put in last. A layer that cannot be used stops the
loading, and the settings are what they were by then. How data is written in a file and how
variables are defined there is left to readers (`Config.Readers`).
-/

namespace FeatureDocs

namespace Config

/-- The settings below all others. -/
def defaults : Section :=
  [(.text "parser",
      .mapping [(.text "language", .text "en"), (.text "languages_file", .null)]),
   (.text "features",
      .mapping [(.text "dir", .text "features"), (.text "pattern", .text "**/*.feature")]),
   (.text "step_definitions", .mapping []),
   (.text "logging", .mapping [(.text "level", .text "INFO")]),
   (.text "report", .mapping [(.text "format", .text "text")])]

/-- The key of the overrides in the file of an environment. -/
def overridesKey : Text := "overrides"

/-- Where the variables of a directory are defined. -/
def variablesFile : Text := ".env"

/-- Why settings cannot be loaded. -/
inductive Error
  /-- A file cannot be read. -/
  | file (e : Tree.Error)
  /-- A variable cannot be set. -/
  | variable (e : Environment.Error)
  /-- A layer is no mapping. -/
  | notAMapping (v : Value)
  /-- Overrides cannot be looked for in a layer. -/
  | notSearchable (v : Value)
  /-- Overrides are in a layer that nothing can be taken out of by its name. -/
  | notRemovable (v : Value)

/-- The wording of an error. -/
def Error.message : Error → Text
  | .file e => e.message
  | .variable e => e.message
  | .notAMapping v => "'" ++ v.kindName ++ "' object has no attribute 'items'"
  | .notSearchable v => "argument of type '" ++ v.kindName ++ "' is not iterable"
  | .notRemovable (.list _) => "'str' object cannot be interpreted as an integer"
  | .notRemovable v => "'" ++ v.kindName ++ "' object has no attribute 'pop'"

/-- What reads files for the settings. -/
structure Readers where
  /-- The data that a text describes. -/
  data : Text → Except Content.Error Value
  /-- An environment with the variables that the file at a path defines; what was set is kept also
  when one of them cannot be. -/
  addVariables : Tree → Path → Environment → Environment × Option Error

/-- Lay a value over settings. -/
def mergeLayer (base : Section) : Value → Except Error Section
  | .mapping entries => .ok (merge base entries)
  | v => .error (.notAMapping v)

/-- Override settings by a value. -/
def overrideLayer (base : Section) : Value → Except Error Section
  | .mapping entries => .ok (override base entries)
  | v => .error (.notAMapping v)

/-- Whether overrides are part of a layer. -/
def hasOverrides : Value → Except Error Bool
  | .mapping entries => .ok (Mapping.contains entries (.text overridesKey))
  | .text t => .ok (Text.contains t overridesKey)
  | .list items => .ok (items.any fun v => v.text? == some overridesKey)
  | v => .error (.notSearchable v)

/-- The overrides of a layer, if it has any, and the rest of it. -/
def takeOverrides (layer : Value) : Except Error (Option Value × Value) :=
  match hasOverrides layer with
  | .error e => .error e
  | .ok false => .ok (none, layer)
  | .ok true =>
    match layer with
    | .mapping entries =>
      .ok (Mapping.get? entries (.text overridesKey),
        .mapping (Mapping.erase entries (.text overridesKey)))
    | v => .error (.notRemovable v)

/-- What a file gives for settings: nothing counts as an empty mapping. -/
def layerOf (v : Value) : Value := if v.isEmpty then .mapping [] else v

/-! ### Loading -/

/-- The settings as far as they were loaded, the environment, what was said, and what stopped it. -/
structure Loading where
  settings : Section
  environment : Environment
  log : Log := []
  error : Option Error := none

/-- Lay the main file over the settings. -/
def loadMain (rs : Readers) (t : Tree) (path : Path) (l : Loading) : Loading :=
  match t.readData? rs.data path with
  | .error e => { l with error := some (.file e) }
  | .ok (some v) =>
    match mergeLayer l.settings (layerOf v) with
    | .error e => { l with error := some e }
    | .ok settings => { l with settings }
  | .ok none =>
    { l with
      log := l.log ++ [⟨.warning, "Config file not found, using defaults: " ++ path.toText⟩] }

/-- The path of the file of an environment. -/
def environmentPath (path : Path) (name : Text) : Path :=
  path.parent ++ Path.ofText "environments" ++ Path.ofText (name ++ ".yaml")

/-- Lay a layer with its overrides over the settings. -/
def applyLayer (layer : Value) (l : Loading) : Loading :=
  match takeOverrides layer with
  | .error e => { l with error := some e }
  | .ok (overrides, rest) =>
    match (overrides.map (overrideLayer l.settings)).getD (.ok l.settings) with
    | .error e => { l with error := some e }
    | .ok settings =>
      match mergeLayer settings rest with
      | .error e => { l with settings, error := some e }
      | .ok settings => { l with settings }

/-- Lay the file of an environment over the settings. -/
def loadEnvironment (rs : Readers) (t : Tree) (path : Path) (l : Loading) : Loading :=
  match t.readData? rs.data path with
  | .error e => { l with error := some (.file e) }
  | .ok (some v) => applyLayer (layerOf v) l
  | .ok none =>
    { l with log := l.log ++ [⟨.debug, "Environment config not found: " ++ path.toText⟩] }

/-- Put the variables into the settings. -/
def finishLoading (name : Text) (l : Loading) : Loading :=
  { l with
    settings := expandEntries l.environment l.settings
    log := l.log ++ [⟨.info, "Configuration loaded for environment: " ++ name⟩] }

/-- A stage that is skipped once there is an error. -/
def Loading.next (l : Loading) (stage : Loading → Loading) : Loading :=
  match l.error with
  | none => stage l
  | some _ => l

/-- Add the variables of the directory to the environment. -/
def loadVariables (rs : Readers) (t : Tree) (env : Environment) : Environment × Option Error :=
  rs.addVariables t (Path.ofText variablesFile) env

/-- Load the settings from the main file at a path and the file of the named environment. The
settings from before are kept only if not even the variables can be used. -/
def load (rs : Readers) (t : Tree) (env : Environment) (path : Path) (name : Text)
    (before : Section) : Loading :=
  match loadVariables rs t env with
  | (environment, some e) => { settings := before, environment, error := some e }
  | (environment, none) =>
    let start : Loading := { settings := merge [] defaults, environment }
    ((start.next (loadMain rs t path)).next
      (loadEnvironment rs t (environmentPath path name))).next (finishLoading name)

/-- The setting at a dotted path, or a default. -/
def get (settings : Section) (path : Text) (fallback : Value) : Value :=
  ((Value.mapping settings).atDotted? path).getD fallback

end Config

end FeatureDocs
