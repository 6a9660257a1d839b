import FeatureDocs.Json.Basic
import FeatureDocs.Text.Quoted

/-!
# Writing JSON

A document is written with one item on a line, two spaces deeper than the line that opens its
container; an empty container is written without a line break. In a text the quote, the backslash
and the control characters are escaped and all else stands for itself.
-/

namespace FeatureDocs.Json

/-- A character inside a written text. -/
def escape (c : Char) : Text :=
  if c = '"' then "\\\""
  else if c = '\\' then "\\\\"
  else if c = '\n' then "\\n"
  else if c = '\r' then "\\r"
  else if c = '\t' then "\\t"
  else if c.toNat = 8 then "\\b"
  else if c.toNat = 12 then "\\f"
  else if c.toNat < 32 then "\\u" ++ Text.hex 4 c.toNat
  else [c]

/-- A text between quotes. -/
def writeText (t : Text) : Text := '"' :: t.flatMap escape ++ ['"']

/-- A line break and the indentation of the given depth. -/
def newline (depth : Nat) : Text := '\n' :: List.replicate (2 * depth) ' '

/-- A container whose written items stand on lines of their own. -/
def enclose (opening closing : Char) (depth : Nat) : List Text → Text
  | [] => [opening, closing]
  | parts =>
    opening :: newline (depth + 1) ++ Text.join (',' :: newline (depth + 1)) parts ++
      newline depth ++ [closing]

/-- A number that is given by its digits. -/
def writeDecimal (negative : Bool) (digits : Nat) (exponent : Int) : Text :=
  (if negative then ['-'] else []) ++ Text.ofNat digits ++ 'e' :: Text.ofInt exponent

mutual

/-- A document whose first line stands at the given depth. -/
def writeAt (depth : Nat) : Json → Text
  | .null => "null"
  | .bool true => "true"
  | .bool false => "false"
  | .int i => Text.ofInt i
  | .decimal negative digits exponent => writeDecimal negative digits exponent
  | .text t => writeText t
  | .array items => enclose '[' ']' depth (writeItems (depth + 1) items)
  | .object members => enclose '\x7b' '\x7d' depth (writeMembers (depth + 1) members)

/-- The items of an array. -/
def writeItems (depth : Nat) : List Json → List Text
  | [] => []
  | j :: js => j.writeAt depth :: writeItems depth js

/-- The members of an object, each with its name. -/
def writeMembers (depth : Nat) : List (Text × Json) → List Text
  | [] => []
  | (name, j) :: ms => (writeText name ++ ": " ++ j.writeAt depth) :: writeMembers depth ms

end

/-- The text of a document. -/
def write (j : Json) : Text := j.writeAt 0

end FeatureDocs.Json
