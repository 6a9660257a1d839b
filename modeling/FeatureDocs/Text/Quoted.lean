import FeatureDocs.Text.PrintableTable

/-!
# Quoted texts

A text between quotes, on one line and in printable characters only. Single quotes are used unless
the text holds one and no double quote. Tab, LF, CR, the backslash and the quote itself are written
with a backslash; any other character that is not printable as its code point in hexadecimal, two,
four or eight digits wide.
-/

namespace FeatureDocs.Text

/-- A character that is shown as it is. -/
def isPrintable (c : Char) : Bool :=
  !unprintableRanges.any fun (first, last) => first ≤ c.toNat && c.toNat ≤ last

/-- The lower-case hexadecimal digits of a number, with zeros in front up to `width`. -/
def hex (width n : Nat) : Text :=
  let digits := Nat.toDigits 16 n
  List.replicate (width - digits.length) '0' ++ digits

/-- The quote that a text is written in. -/
def quoteOf (t : Text) : Char := if '\'' ∈ t ∧ '"' ∉ t then '"' else '\''

/-- A character between quotes. -/
def quoteChar (quote c : Char) : Text :=
  if c = quote ∨ c = '\\' then ['\\', c]
  else if c = '\t' then "\\t"
  else if c = '\n' then "\\n"
  else if c = '\r' then "\\r"
  else if isPrintable c then [c]
  else if c.toNat < 0x100 then "\\x" ++ hex 2 c.toNat
  else if c.toNat < 0x10000 then "\\u" ++ hex 4 c.toNat
  else "\\U" ++ hex 8 c.toNat

/-- The text between quotes. -/
def quoted (t : Text) : Text :=
  quoteOf t :: t.flatMap (quoteChar (quoteOf t)) ++ [quoteOf t]

end FeatureDocs.Text
