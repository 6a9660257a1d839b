import FeatureDocs.Text.Basic

/-!
# Lines of a document

A document is one text or a list of lines. Only CR LF, CR and LF end a line of a text; the empty
piece after a final break is no line. A line of a list loses the breaks at its end and keeps
those inside.
-/

namespace FeatureDocs

namespace Text

/-- The pieces between the line breaks of a text: one more than there are breaks. -/
def pieces : Text → List Text
  | [] => [[]]
  | '\r' :: '\n' :: rest => [] :: pieces rest
  | c :: rest =>
    if c = '\r' ∨ c = '\n' then [] :: pieces rest
    else
      match pieces rest with
      | [] => [[c]]
      | piece :: more => (c :: piece) :: more

/-- The lines of a text: its pieces without an empty last one. -/
def lines (t : Text) : List Text :=
  let ps := pieces t
  if ps.getLast? = some [] then ps.dropLast else ps

/-- The text with each line break written as a single LF. -/
def unifyBreaks : Text → Text
  | [] => []
  | '\r' :: '\n' :: rest => '\n' :: unifyBreaks rest
  | c :: rest => (if c = '\r' then '\n' else c) :: unifyBreaks rest

/-- The text with each CR LF written as LF; a CR that stands alone stays. -/
def joinBreaks : Text → Text
  | [] => []
  | '\r' :: '\n' :: rest => '\n' :: joinBreaks rest
  | c :: rest => c :: joinBreaks rest

/-- A character that ends a line. -/
def isBreakChar (c : Char) : Bool := c == '\r' || c == '\n'

/-- The line without the break characters at its end. -/
def dropBreaks (t : Text) : Text := (t.reverse.dropWhile isBreakChar).reverse

end Text

/-- Where lines are read from: a whole document, or lines that may still end in a break. -/
inductive Source
  | document (text : Text)
  | lines (lines : List Text)

/-- The lines of a source. -/
def Source.toLines : Source → List Text
  | .document text => text.lines
  | .lines ls => ls.map Text.dropBreaks

end FeatureDocs
