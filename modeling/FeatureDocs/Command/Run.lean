import FeatureDocs.Command.Options
import FeatureDocs.Config.Basic
import FeatureDocs.Keyword.Packaged
import FeatureDocs.Registry.Basic
import FeatureDocs.Suite

/-!
# Running the command

A run loads its settings, selects the keywords, registers the implementations that the settings
name, parses a suite and reports on it. It ends with 0 if all was well, with 1 if a document was
rejected, and with 2 if the command line or the keywords cannot be used. What goes wrong otherwise
ends it at once.
-/

namespace FeatureDocs

namespace Command

/-- The version that is shown. -/
def version : Text := "1.0.0"

/-- What a run starts from. -/
structure Input where
  readers : Config.Readers
  tree : Tree := {}
  environment : Environment := []
  providers : Providers := []
  threshold : Nat := Log.defaultThreshold
  time : Moment

/-- What keeps a run from its end. -/
inductive Error
  | config (e : Config.Error)
  | level (e : Log.UnknownLevel)
  | levelNotText (v : Value)
  | pathNotText (v : Value)
  | languageNotHashable (v : Value)
  | file (e : Tree.Error)
  | registry (e : Registry.Error)
  | suite (e : Suite.Error)

/-- The wording of an error. -/
def Error.message : Error → Text
  | .config e => e.message
  | .level e => e.message
  | .levelNotText v => "'" ++ v.kindName ++ "' object has no attribute 'upper'"
  | .pathNotText v => "expected str, bytes or os.PathLike object, not " ++ v.kindName
  | .languageNotHashable v => "unhashable type: '" ++ v.kindName ++ "'"
  | .file e => e.message
  | .registry e => e.message
  | .suite e => e.message

/-- Why the keywords cannot be used. -/
inductive KeywordError
  | dataset (e : Dataset.Error)
  | language (e : KeywordTable.UnknownLanguage)

/-- The wording of an error. -/
def KeywordError.message : KeywordError → Text
  | .dataset e => e.message
  | .language e => e.message

/-- What a run stops at. -/
inductive Stop
  | keywords (e : KeywordError)
  | failure (e : Error)
  /-- The report cannot be written; some of the directories for it may be there. -/
  | unwritten (t : Tree) (e : Tree.Error)

/-! ### Stages -/

/-- A part of a run: what is said, and what it gives or stops at. -/
structure Stage (α : Type) where
  log : Log := []
  result : Except Stop α

namespace Stage

variable {α β : Type}

/-- A part and, if it does not stop, another one that goes on from what it gives. -/
def andThen (s : Stage α) (f : α → Stage β) : Stage β :=
  match s.result with
  | .ok a => { log := s.log ++ (f a).log, result := (f a).result }
  | .error e => { log := s.log, result := .error e }

instance : Monad Stage where
  pure a := { result := .ok a }
  bind := andThen

/-- A part that says something. -/
def say (level : Log.Level) (text : Text) : Stage Unit :=
  { log := [⟨level, text⟩], result := .ok () }

/-- A part that stops. -/
def stop (e : Stop) : Stage α := { result := .error e }

end Stage

/-- A text that is not empty. -/
def given? (t : Option Text) : Option Text := t.filter (!·.isEmpty)

/-! ### Parts of a run -/

/-- The threshold of the log that the settings ask for. -/
def threshold (settings : Section) : Except Error Nat :=
  match Config.get settings "logging.level" (.text "INFO") with
  | .text name =>
    match Log.levelNumber name with
    | .ok n => .ok n
    | .error e => .error (.level e)
  | v => .error (.levelNotText v)

/-- The path that a value names. -/
def pathOf : Value → Except Error Path
  | .text t => .ok (Path.ofText t)
  | v => .error (.pathNotText v)

/-- What is said about a dataset that was read. -/
def datasetLog (d : Dataset) (place : Text) : Log :=
  [⟨.debug, "Loaded keywords for " ++ Text.ofNat d.codes.length ++ " languages from " ++ place⟩]

/-- The dataset in a file. -/
def datasetAt (i : Input) (path : Path) : Stage Dataset :=
  match i.tree.readData i.readers.data path with
  | .error e => .stop (.failure (.file e))
  | .ok v =>
    match Dataset.ofFileValue v with
    | .error e => .stop (.keywords (.dataset e))
    | .ok d => { log := datasetLog d path.toText, result := .ok d }

/-- The packaged dataset. -/
def packagedDataset : Stage Dataset :=
  { log := datasetLog Dataset.packaged Dataset.packagedPlace, result := .ok Dataset.packaged }

/-- The dataset that the settings ask for. -/
def dataset (i : Input) (settings : Section) : Stage Dataset :=
  let place := Config.get settings "parser.languages_file" .null
  if place.isEmpty then packagedDataset
  else
    match pathOf place with
    | .ok path => datasetAt i path
    | .error e => .stop (.failure e)

/-- The keywords of the language that a value names. -/
def keywords (d : Dataset) : Value → Stage KeywordTable
  | .text language =>
    match KeywordTable.select d language with
    | .ok k => pure k
    | .error e => .stop (.keywords (.language e))
  | v@(.list _) | v@(.mapping _) => .stop (.failure (.languageNotHashable v))
  | v => .stop (.keywords (.language ⟨v.plain, d.codes⟩))

/-- The registry that the settings describe. -/
def registry (ps : Providers) (settings : Section) : Stage Registry :=
  match Registry.registerAll {} ps (Config.get settings "step_definitions" (.mapping [])) with
  | (r, log, none) => { log, result := .ok r }
  | (_, log, some e) => { log, result := .error (.failure (.registry e)) }

/-- The suite at the place that a value names. -/
def suite (k : KeywordTable) (r : Registry) (t : Tree) (settings : Section) (place : Value) :
    Stage Suite.Report :=
  let pattern := Config.get settings "features.pattern" (.text Suite.defaultPattern)
  match pathOf place with
  | .error e => .stop (.failure e)
  | .ok path =>
    match Suite.load k (some r.resolver) t path (Glob.ofValue pattern) with
    | (.ok report, log) => { log, result := .ok report }
    | (.error e, log) => { log, result := .error (.failure (.suite e)) }

/-- What a run did: the texts it printed, the files it left, and the documents it rejected. -/
structure Done where
  printed : List Text
  tree : Tree
  failures : List Outcome := []

/-- Print a summary, or write it to the file that the options name. -/
def publish (o : Options) (t : Tree) (s : Summary) (format : ReportFormat) : Stage Done :=
  match given? o.output with
  | none => pure { printed := [s.render format], tree := t, failures := s.failures }
  | some path =>
    match s.save t path format with
    | ((t, none), log) =>
      { log, result := .ok { printed := [], tree := t, failures := s.failures } }
    | ((t, some e), log) => { log, result := .error (.unwritten t e) }

/-- The format that the options or else the settings ask for. -/
def formatOf (o : Options) (settings : Section) : ReportFormat :=
  match o.format with
  | some format => format
  | none =>
    match Config.get settings "report.format" (.text "text") with
    | .text name => .ofName name
    | _ => .text

/-- What an option gives, or else a setting. -/
def choose (option : Option Text) (settings : Section) (path fallback : Text) : Value :=
  match given? option with
  | some t => .text t
  | none => Config.get settings path (.text fallback)

/-- Parse the suite and report on it. -/
def report (o : Options) (i : Input) (settings : Section) (d : Dataset) : Stage Done := do
  let language := choose o.language settings "parser.language" "en"
  Stage.say .info ("featurespec v" ++ version ++ ", language: " ++ language.plain)
  let r ← registry i.providers settings
  let k ← keywords d language
  let found ← suite k r i.tree settings (choose o.features settings "features.dir" "features")
  let summary : Summary :=
    { label := k.language, time := i.time, features := found.features, outcomes := found.outcomes }
  publish o i.tree summary (formatOf o settings)

/-- All of a run behind its settings. -/
def perform (o : Options) (i : Input) (settings : Section) : Stage Done := do
  let d ← dataset i settings
  if o.listLanguages then pure { printed := d.codes, tree := i.tree } else report o i settings d

/-! ### Results -/

/-- How a run ended. -/
structure Result where
  exitCode : Nat
  /-- The texts that were printed, in order. -/
  printed : List Text := []
  tree : Tree
  /-- All that was said. -/
  log : Log := []
  /-- What the threshold of the time let through. -/
  shown : Log := []
  error : Option Error := none

/-- What is on a console behind a run. -/
def Result.output (c : Console) (r : Result) : Text := r.printed.flatMap c.echo

/-- The result of a run that did not get to its end or did. -/
def resultOf (i : Input) (s : Stage Done) : Result :=
  match s.result with
  | .ok done =>
    { exitCode := if done.failures.isEmpty then 0 else 1
      printed := done.printed
      tree := done.tree
      log := s.log ++ done.failures.map fun o => ⟨.error, o.describe⟩ }
  | .error (.keywords e) =>
    { exitCode := 2
      tree := i.tree
      log := s.log ++ [⟨.error, "Keyword configuration error: " ++ e.message⟩] }
  | .error (.failure e) => { exitCode := 1, tree := i.tree, log := s.log, error := some e }
  | .error (.unwritten t e) => { exitCode := 1, tree := t, log := s.log, error := some (.file e) }

/-- Run with options. -/
def runOptions (o : Options) (i : Input) : Result :=
  let loading :=
    Config.load i.readers i.tree i.environment (Path.ofText o.config) o.environment []
  let shown := Log.shown i.threshold loading.log
  let stopped (e : Error) : Result :=
    { exitCode := 1, tree := i.tree, log := loading.log, shown, error := some e }
  match loading.error with
  | some e => stopped (.config e)
  | none =>
    match threshold loading.settings with
    | .error e => stopped e
    | .ok n =>
      let result := resultOf i (perform o i loading.settings)
      { result with log := loading.log ++ result.log, shown := shown ++ Log.shown n result.log }

/-- Run with the arguments of a command line. -/
def run (c : Console) (args : List Text) (i : Input) : Result :=
  match c.read args with
  | .run o => runOptions o i
  | .help => { exitCode := 0, tree := i.tree }
  | .misuse => { exitCode := 2, tree := i.tree }

end Command

end FeatureDocs
