import FeatureDocs.Document.DataTable
import FeatureDocs.Keyword.Category
import FeatureDocs.Registry.Handle

/-!
# Features

A feature has a description, a background, scenarios and scenario outlines; these have steps, and a
step may carry a table and a doc string. Every node keeps the number of the line it was read from;
nodes that were not read may have any number.
-/

namespace FeatureDocs

/-- The section of a scenario that a step belongs to. -/
inductive StepKind
  | context
  | action
  | outcome
  deriving DecidableEq, Repr

/-- The name of a section. -/
def StepKind.name : StepKind → Text
  | .context => "given"
  | .action => "when"
  | .outcome => "then"

/-- The category of the keyword that begins a section. -/
def StepKind.category : StepKind → Category
  | .context => .context
  | .action => .action
  | .outcome => .outcome

/-- A step with what is attached to it. -/
structure Step where
  kind : StepKind
  text : Text
  table : Option DataTable := none
  docString : Option Text := none
  line : Int := 0
  deriving DecidableEq

/-- A named list of steps. -/
structure Scenario where
  name : Text
  steps : List Step := []
  line : Int := 0
  deriving DecidableEq

/-- A scenario for every row of its examples. -/
structure Outline extends Scenario where
  examples : Option DataTable := none
  deriving DecidableEq

/-- The steps of one section. -/
def Scenario.stepsOf (s : Scenario) (kind : StepKind) : List Step :=
  s.steps.filter (·.kind = kind)

/-- A scenario of a feature: a plain one or an outline. An outline may stand wherever a scenario
may. -/
inductive Member
  | scenario (s : Scenario)
  | outline (o : Outline)
  deriving DecidableEq

namespace Member

/-- The scenario that a member is, or is a pattern for. -/
def toScenario : Member → Scenario
  | .scenario s => s
  | .outline o => o.toScenario

/-- Whether a member is an outline. -/
def isOutline : Member → Bool
  | .scenario _ => false
  | .outline _ => true

end Member

/-- A feature with the implementation that was found for it. Its outlines have a list of their own,
but nothing keeps an outline out of the list of scenarios. -/
structure Feature where
  name : Text
  background : Option Member := none
  scenarios : List Member := []
  outlines : List Outline := []
  description : List Text := []
  implementation : Option Handle := none
  file : Text := []
  line : Int := 0

/-- The scenarios and outlines by the lines they stand on; of one line, the list of scenarios comes
first. -/
def Feature.members (f : Feature) : List Member :=
  (f.scenarios ++ f.outlines.map Member.outline).mergeSort fun a b =>
    a.toScenario.line ≤ b.toScenario.line

end FeatureDocs
