import FeatureDocs.Text.Lines

/-!
# Cursors

A position in the lines of a document that moves forward line by line. It never leaves them
(`position_le`).
-/

namespace FeatureDocs

/-- Lines and the number of those before the next one. -/
structure Cursor where
  lines : List Text := []
  position : Nat := 0
  position_le : position ≤ lines.length := by simp

namespace Cursor

/-- A line was asked for behind the last one. -/
structure Exhausted where
  position : Nat

/-- The wording of the error. -/
def Exhausted.message (e : Exhausted) : Text :=
  "peek() past end of input (line " ++ Text.ofNat e.position ++ ")"

/-- A cursor before the first line of a document. -/
def ofSource (document : Source) : Cursor := { lines := document.toLines }

/-- Whether there is no next line. -/
def atEnd (c : Cursor) : Bool := c.position == c.lines.length

/-- The next line. -/
def peek (c : Cursor) : Except Exhausted Text :=
  if h : c.position < c.lines.length then .ok c.lines[c.position] else .error ⟨c.position⟩

/-- The next line and the cursor behind it. -/
def next (c : Cursor) : Except Exhausted (Text × Cursor) :=
  if h : c.position < c.lines.length then
    .ok (c.lines[c.position], { lines := c.lines, position := c.position + 1, position_le := h })
  else .error ⟨c.position⟩

end Cursor

end FeatureDocs
