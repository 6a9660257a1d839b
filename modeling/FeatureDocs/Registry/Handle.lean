import FeatureDocs.Value.Printer

/-!
# Handles

What implements the steps of a feature, as far as this library looks at it: a value, or a definition
that is known by its name.
-/

namespace FeatureDocs

/-- The implementation of the steps of a feature. -/
inductive Handle
  | value (v : Value)
  | definition (name : Text)

/-- How messages show an implementation. -/
def Handle.plain : Handle → Text
  | .value v => v.plain
  | .definition name => name

end FeatureDocs
