import FeatureDocs.Text.Basic

/-!
# Control sequences

A control sequence tells a terminal how to show what follows. It begins with ESC.
-/

namespace FeatureDocs.Text

/-- The character that begins a control sequence. -/
def escapeChar : Char := '\x1b'

/-- The sequence that selects a way of showing text. -/
def select (code : Text) : Text := escapeChar :: '[' :: code ++ ['m']

/-- A text in which no control sequence begins and no line is returned to. -/
structure Plain (t : Text) : Prop where
  escape : escapeChar ∉ t
  carriageReturn : '\r' ∉ t

end FeatureDocs.Text
