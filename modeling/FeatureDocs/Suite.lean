import FeatureDocs.Document.Outcome
import FeatureDocs.Files.Glob

/-!
# Suites

A suite is all the feature files that a glob leads to below a directory, or one file. Every file is
parsed, in the order of the paths, and one that is rejected does not stop the others; a file that
cannot be read does.
-/

namespace FeatureDocs

namespace Suite

/-- The pattern for the files of a suite when no other is given. -/
def defaultPattern : Text := "**/*.feature"

/-- Why a suite cannot be loaded. -/
inductive Error
  | glob (e : Glob.Error)
  | file (e : Tree.Error)

/-- The wording of an error. -/
def Error.message : Error → Text
  | .glob e => e.message
  | .file e => e.message

/-- The paths of a suite, and what is said about it. The glob matters for a directory only. -/
def find (t : Tree) (p : Path) (glob : Except Glob.Error Glob) : Except Error (List Path) × Log :=
  match t.lookUp p, glob with
  | .error e, _ => (.error (.file e), [])
  | .ok none, _ | .ok (some .sink), _ =>
    (.ok [], [⟨.warning, "Features directory not found: " ++ p.toText⟩])
  | .ok (some (.file _)), _ => (.ok [p], [])
  | .ok (some .directory), .error e => (.error (.glob e), [])
  | .ok (some .directory), .ok g => ((g.paths t p).mapError .file, [])

/-- The outcomes of the files of a suite. -/
structure Report where
  outcomes : List Outcome

namespace Report

/-- The features of all files. -/
def features (r : Report) : List Feature := r.outcomes.flatMap (·.features)

/-- The outcomes of the files that were rejected. -/
def failures (r : Report) : List Outcome := Outcome.failures r.outcomes

/-- Whether no file was rejected. -/
def ok (r : Report) : Bool := r.failures.isEmpty

/-- What is said about a suite. -/
def log (r : Report) : Log :=
  [⟨.info, "Loaded " ++ Text.ofNat r.features.length ++ " features from " ++
    Text.ofNat r.outcomes.length ++ " files (" ++ Text.ofNat r.failures.length ++ " rejected)"⟩]

end Report

/-- Parse the files at some paths, up to the first that cannot be read. The resolver is asked for
one file after the other. -/
def parseFiles (k : KeywordTable) (t : Tree) :
    Option Resolver → List Path → Except Tree.Error (List Outcome) × Log
  | _, [] => (.ok [], [])
  | resolver, p :: ps =>
    match t.readDocument p with
    | .error e => (.error e, [])
    | .ok text =>
      let parsing := k.parse resolver (.document text) p.toText
      let (outcomes, log) := parseFiles k t (resolver.map (·.skip parsing.asked.length)) ps
      (outcomes.map (parsing.outcome :: ·), parsing.log ++ log)

/-- Parse all files of a suite. -/
def load (k : KeywordTable) (resolver : Option Resolver) (t : Tree) (p : Path)
    (glob : Except Glob.Error Glob) : Except Error Report × Log :=
  match find t p glob with
  | (.error e, log) => (.error e, log)
  | (.ok paths, log) =>
    match parseFiles k t resolver paths with
    | (.error e, more) => (.error (.file e), log ++ more)
    | (.ok outcomes, more) =>
      let report : Report := ⟨outcomes⟩
      (.ok report, log ++ more ++ report.log)

end Suite

end FeatureDocs
