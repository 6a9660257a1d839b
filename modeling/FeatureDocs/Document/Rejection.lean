import FeatureDocs.Document.Feature

/-!
# Rejections

Why a document is rejected: a line is not what has to stand there, or the document ends too early.
-/

namespace FeatureDocs

/-- What is wrong with a line. -/
inductive Fault
  | expectedFeature
  | unexpectedLine
  | duplicateBackground
  | expectedStep (kind : StepKind)
  | expectedExamples
  | examplesWithoutTable
  | rowWidth (e : DataTable.WidthError)
  | docStringLine
  | docStringEnd

/-- The wording of a fault. -/
def Fault.reason : Fault → Text
  | .expectedFeature => "Expected a Feature"
  | .unexpectedLine => "Unexpected line in feature body"
  | .duplicateBackground => "Duplicate Background"
  | .expectedStep kind => "Expected a " ++ kind.category.name ++ " step"
  | .expectedExamples => "Expected Examples"
  | .examplesWithoutTable => "Examples without a table"
  | .rowWidth e => "Table row has " ++ Text.ofNat e.cells ++ " cells, header has " ++
      Text.ofNat e.width
  | .docStringLine => "Doc string line is not indented like its opening marker"
  | .docStringEnd => "Doc string closing marker is not indented like its opening marker"

/-- Why a document is rejected. The line is the number of lines read up to the fault. -/
inductive Rejection
  | fault (fault : Fault) (line : Nat)
  | endOfInput

namespace Rejection

/-- The name of the kind of a rejection. -/
def kindName : Rejection → Text
  | .fault .. => "syntax_error"
  | .endOfInput => "unexpected_eof"

/-- The line of a rejection, if it has one. -/
def line? : Rejection → Option Nat
  | .fault _ line => some line
  | .endOfInput => none

/-- What is wrong. -/
def reason : Rejection → Text
  | .fault f _ => f.reason
  | .endOfInput => "Unexpected end of file"

/-- What is wrong, and where. -/
def message : Rejection → Text
  | .fault f line => f.reason ++ " at line " ++ Text.ofNat line
  | .endOfInput => "Unexpected end of file"

end Rejection

end FeatureDocs
