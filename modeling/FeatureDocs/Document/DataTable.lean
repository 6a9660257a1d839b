import FeatureDocs.Mapping
import FeatureDocs.Text.Basic

/-!
# Data tables

A table has a header and rows of cells. A row is added only if it is as wide as the header. In a
document a row is a line between bars, with a bar between neighbouring cells; the last bar may be
missing.
-/

namespace FeatureDocs

/-- A table of texts below the names of its columns. -/
structure DataTable where
  header : List Text
  rows : List (List Text) := []
  deriving DecidableEq

namespace DataTable

/-- A row that is not as wide as the header of its table. -/
structure WidthError where
  cells : Nat
  width : Nat

/-- The wording of the error. -/
def WidthError.message (e : WidthError) : Text :=
  "Row has " ++ Text.ofNat e.cells ++ " cells, header has " ++ Text.ofNat e.width

/-- The number of columns. -/
def width (t : DataTable) : Nat := t.header.length

/-- The table with one more row. -/
def addRow (t : DataTable) (row : List Text) : Except WidthError DataTable :=
  if row.length = t.width then .ok { t with rows := t.rows ++ [row] }
  else .error ⟨row.length, t.width⟩

/-- The rows, each cell under the name of its column; of columns with one name the last counts. -/
def asMappings (t : DataTable) : List (Mapping Text Text) :=
  t.rows.map fun row => Mapping.ofList (t.header.zip row)

/-! ### Rows in a document -/

/-- The character between the cells of a row. -/
def bar : Char := '|'

/-- Whether a line is a row of a table. -/
def isRow (line : Text) : Bool := (Text.trim line).head? == some bar

/-- The cells of a row, trimmed. -/
def cells (line : Text) : List Text :=
  let inner := (Text.trim line).drop 1
  let inner := if inner.getLast? = some bar then inner.dropLast else inner
  (Text.splitOn bar inner).map Text.trim

theorem cells_ne_nil (line : Text) : cells line ≠ [] := by
  simp [cells, Text.splitOn_ne_nil]

theorem addRow_eq_ok_iff {t u : DataTable} {row : List Text} :
    t.addRow row = .ok u ↔ row.length = t.width ∧ u = { t with rows := t.rows ++ [row] } := by
  unfold addRow
  split <;> simp_all [eq_comm]

end DataTable

end FeatureDocs
