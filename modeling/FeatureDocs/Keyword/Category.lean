import FeatureDocs.Text.Basic

/-!
# Keyword categories

The places in a feature document at which a keyword stands. A section of steps has its own keyword:
the context (Given), the action (When) and the outcome (Then); a conjunction (And) continues any of
them.
-/

namespace FeatureDocs

/-- What a keyword introduces. -/
inductive Category
  | feature
  | background
  | scenario
  | outline
  | context
  | conjunction
  | action
  | outcome
  | examples
  deriving DecidableEq, Repr

namespace Category

/-- All categories. -/
def all : List Category :=
  [.feature, .background, .scenario, .outline, .context, .conjunction, .action, .outcome, .examples]

/-- The name by which a dataset refers to a category. -/
def name : Category → Text
  | .feature => "Feature"
  | .background => "Background"
  | .scenario => "Scenario"
  | .outline => "ScenarioOutline"
  | .context => "Given"
  | .conjunction => "And"
  | .action => "When"
  | .outcome => "Then"
  | .examples => "Examples"

/-- The category with a name. -/
def ofName? (name : Text) : Option Category := all.find? (·.name == name)

theorem mem_all (c : Category) : c ∈ all := by cases c <;> decide

theorem ofName?_name (c : Category) : ofName? c.name = some c := by cases c <;> decide

theorem name_of_ofName? {name : Text} {c : Category} (h : ofName? name = some c) :
    c.name = name := by
  simpa using List.find?_some h

end Category

end FeatureDocs
