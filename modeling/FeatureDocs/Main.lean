import FeatureDocs.Command.Run
import FeatureDocs.Command.Standard
import FeatureDocs.Config.Standard
import FeatureDocs.Log.Loggers
import Std.Time.DateTime.Timestamp

/-!
# The command line

The names of the files that a run may look at are read from standard input, one on a line; all else
is asked for by the arguments. The log goes to the standard error output.
-/

namespace FeatureDocs.Command

/-- The tree of the files with the given names. What cannot be read is left out. -/
def readTree (names : List String) : IO Tree :=
  names.foldlM (fun tree (name : String) => do
    let .ok bytes ← (IO.FS.readBinFile name).toBaseIO | return tree
    return (tree.write name.toList (.file (.bytes bytes))).1) {}

/-- The names of the variables that the files of a tree refer to. -/
def namesMentioned (t : Tree) : List Text :=
  t.nodes.flatMap fun (_, n) =>
    match n with
    | .file c =>
      match c.value Config.Readers.standard.data with
      | .ok v => Config.mentioned v
      | .error _ => []
    | .directory | .sink => []

/-- The variables with the given names that have a value. -/
def readEnvironment (names : List Text) : IO Environment :=
  names.foldlM (fun env name => do
    let some v ← IO.getEnv (Text.asString name) | return env
    return Mapping.insert env name v.toList) []

/-- The present moment. -/
def now : IO Moment := do
  let t ← Std.Time.Timestamp.now
  return Moment.ofSeconds t.toSecondsSinceUnixEpoch.val.toNat

/-- Write the report that a run left at a path, if there is one. -/
def saveReport (t : Tree) (path : Text) : IO Unit := do
  let .ok (.bytes bytes) := t.content path | return
  let directory := Tree.directoryText path
  if !directory.isEmpty then IO.FS.createDirAll (Text.asString directory)
  IO.FS.writeBinFile (Text.asString path) bytes

/-- Run with options on the files with the given names. -/
def runOn (o : Options) (names : List String) : IO UInt32 := do
  let level ← readEnvironment [Log.Loggers.levelVariable]
  let threshold ←
    match Log.levelNumber (Log.Loggers.levelName none level) with
    | .ok n => pure n
    | .error e => throw (IO.userError (Text.asString e.message))
  let tree ← readTree names
  let environment ← readEnvironment (Config.Readers.switchVariable :: namesMentioned tree)
  let r := runOptions o { readers := .standard, tree, environment, threshold, time := ← now }
  for e in r.shown do
    IO.eprintln (Text.asString (Log.line "featurespec" e.level.number e.level.name e.text))
  IO.print (Text.asString (r.output .standard))
  match r.error with
  | some e => IO.eprintln (Text.asString e.message)
  | none => if let some path := given? o.output then saveReport r.tree path
  return r.exitCode.toUInt32

end FeatureDocs.Command

/-- Do what the arguments of the command line ask for. -/
def main (args : List String) : IO UInt32 := do
  match FeatureDocs.Command.Console.standard.read (args.map String.toList) with
  | .run o =>
    let names ← (← IO.getStdin).lines
    FeatureDocs.Command.runOn o (names.toList.filter (!·.isEmpty))
  | .help =>
    IO.print (FeatureDocs.Text.asString FeatureDocs.Command.usage)
    return 0
  | .misuse =>
    IO.eprint (FeatureDocs.Text.asString FeatureDocs.Command.usage)
    return 2
