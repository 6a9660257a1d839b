import FeatureDocs.Files.Change
import FeatureDocs.Report.Moment
import FeatureDocs.Report.Tree

/-!
# Summaries

A summary tells what features there are and which documents were rejected, line by line for readers
or as a JSON document for programs.
-/

namespace FeatureDocs

/-- What a summary is about: a label, a moment, features, and the outcomes they came from. -/
structure Summary where
  label : Text := "en"
  time : Moment
  features : List Feature
  outcomes : List Outcome := []

/-- How a summary is written. -/
inductive ReportFormat
  | text
  | json
  deriving DecidableEq, Repr

/-- The format with a name; an unknown name means text. -/
def ReportFormat.ofName (name : Text) : ReportFormat := if name = "json" then .json else .text

namespace Summary

/-- The documents that were rejected. -/
def failures (s : Summary) : List Outcome := Outcome.failures s.outcomes

/-! ### As text -/

/-- A step with a word for everything that is attached to it. -/
def stepLine (s : Step) : Text :=
  "    " ++ s.kind.category.name ++ " " ++ s.text ++
    (match s.table with
      | some t => "  (" ++ Text.ofNat t.rows.length ++ " table rows)"
      | none => [] : Text) ++
    (if s.docString.isSome then "  (doc string)" else [] : Text)

/-- The lines of a scenario or an outline. -/
def memberLines : Member → List Text
  | .scenario s => ("  Scenario: " ++ s.name) :: s.steps.map stepLine
  | .outline o =>
    ("  Scenario Outline: " ++ o.name) :: o.steps.map stepLine ++
      (o.examples.map fun t => "    Examples: " ++ Text.ofNat t.rows.length ++ " rows").toList

/-- The lines of a feature. -/
def featureLines (f : Feature) : List Text :=
  ("Feature: " ++ f.name ++ (if f.file.isEmpty then [] else "  [" ++ f.file ++ "]" : Text)) ::
    (f.background.map fun b =>
      "  Background (" ++ Text.ofNat b.toScenario.steps.length ++ " steps)").toList ++
    f.members.flatMap memberLines

/-- The lines about the documents that were rejected. -/
def failureLines (s : Summary) : List Text :=
  match s.failures with
  | [] => []
  | os => [] :: ("Rejected (" ++ Text.ofNat os.length ++ "):") :: os.map fun o => "  " ++ o.describe

/-- What stands among the scenarios of all features. -/
def scenarios (s : Summary) : List Member := s.features.flatMap (·.scenarios)

/-- The outlines of all features. -/
def outlines (s : Summary) : List Outline := s.features.flatMap (·.outlines)

/-- The steps of all scenarios, and then of all outlines. -/
def steps (s : Summary) : List Step :=
  (s.scenarios ++ s.outlines.map Member.outline).flatMap (·.toScenario.steps)

/-- The line that says how many things there are. -/
def countLine (s : Summary) : Text :=
  Text.ofNat s.features.length ++ " features, " ++ Text.ofNat s.scenarios.length ++
    " scenarios, " ++ Text.ofNat s.outlines.length ++ " outlines, " ++
    Text.ofNat s.steps.length ++ " steps"

/-- All lines of a summary. -/
def lines (s : Summary) : List Text :=
  ("Feature summary (" ++ s.label ++ ") - " ++ s.time.toText) :: s.countLine ::
    s.features.flatMap (fun f => [] :: featureLines f) ++ s.failureLines

/-- A summary for readers: its lines, each ended by a line break. -/
def toText (s : Summary) : Text := s.lines.flatMap (· ++ "\n")

/-! ### As JSON -/

/-- A summary as a JSON document. -/
def toJson (s : Summary) : Json :=
  .object
    [("language", .text s.label), ("features", .array (s.features.map Feature.toJson)),
     ("failures",
       .array (s.outcomes.filterMap fun o => o.rejection.map (Rejection.toJson o.source)))]

/-! ### Writing -/

/-- A summary in a format. -/
def render (s : Summary) : ReportFormat → Text
  | .text => s.toText
  | .json => s.toJson.write

/-- Write a summary to a file. -/
def save (s : Summary) (t : Tree) (path : Text) (format : ReportFormat) : Tree.Change × Log :=
  match t.write path (.file (.ofText (s.render format))) with
  | (t, none) => ((t, none), [⟨.info, "Report generated: " ++ path⟩])
  | (t, some e) => ((t, some e), [])

end Summary

end FeatureDocs
