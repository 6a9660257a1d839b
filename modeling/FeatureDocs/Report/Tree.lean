import FeatureDocs.Document.Outcome
import FeatureDocs.Json.Writer

/-!
# Features as JSON documents

Each node of a feature as a JSON object. A step has members for a table and a doc string only if it
has them; the examples of an outline and the background of a feature are always there, if only as
nothing. Of an implementation the document tells whether there is one.
-/

namespace FeatureDocs

/-- A table as a document. -/
def DataTable.toJson (t : DataTable) : Json :=
  .object [("header", .texts t.header), ("rows", .array (t.rows.map .texts))]

/-- A step as a document. -/
def Step.toJson (s : Step) : Json :=
  .object <|
    [Json.member "kind" (.text s.kind.name), Json.member "text" (.text s.text),
      Json.member "line" (.int s.line)] ++
      (s.table.map fun t => Json.member "data_table" t.toJson).toList ++
      (s.docString.map fun d => Json.member "doc_string" (.text d)).toList

/-- The members of a scenario. -/
def Scenario.jsonMembers (s : Scenario) : List (Text × Json) :=
  [("name", .text s.name), ("line", .int s.line), ("steps", .array (s.steps.map Step.toJson))]

/-- A scenario as a document. -/
def Scenario.toJson (s : Scenario) : Json := .object s.jsonMembers

/-- An outline as a document. -/
def Outline.toJson (o : Outline) : Json :=
  .object (o.jsonMembers ++ [Json.member "examples" (.ofOption (o.examples.map DataTable.toJson))])

/-- A scenario of any kind as a document. -/
def Member.toJson : Member → Json
  | .scenario s => s.toJson
  | .outline o => o.toJson

/-- A feature as a document. -/
def Feature.toJson (f : Feature) : Json :=
  .object
    [("name", .text f.name), ("file", .text f.file), ("line", .int f.line),
     ("description", .texts f.description),
     ("background", .ofOption (f.background.map Member.toJson)),
     ("scenarios", .array (f.scenarios.map Member.toJson)),
     ("scenario_outlines", .array (f.outlines.map Outline.toJson)),
     ("has_implementation", .bool f.implementation.isSome)]

/-- A rejected document as a document of its own. -/
def Rejection.toJson (source : Text) (r : Rejection) : Json :=
  .object
    [("source", .text source), ("kind", .text r.kindName), ("line", .ofOption (r.line?.map .nat)),
     ("message", .text r.message)]

end FeatureDocs
