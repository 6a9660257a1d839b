import FeatureDocs.Text.Lines
import FeatureDocs.Value.Basic

/-!
# Contents of files

What a file holds: bytes, or something that has been read from it already, which may be data or the
values of variables. Bytes are read as UTF-8, and a document may have a mark in front. How data is
written is up to the reader of data.
-/

namespace FeatureDocs

/-- What a file holds. -/
inductive Content
  | bytes (bs : ByteArray)
  | data (v : Value)
  | variables (vs : Mapping Text Text)

namespace Content

/-- Why the content of a file cannot be used. -/
inductive Error
  | notText
  | notData

/-- The bytes of a text. -/
def ofText (t : Text) : Content := .bytes (Text.asString t).toUTF8

/-! ### Text -/

/-- The characters that bytes stand for. -/
def decode (bs : ByteArray) : Except Error Text :=
  match String.fromUTF8? bs with
  | some s => .ok s.toList
  | none => .error .notText

/-- The character that may mark the start of a text. -/
def mark : Char := '\uFEFF'

/-- The text behind its mark. -/
def dropMark : Text → Text
  | [] => []
  | c :: rest => if c = mark then rest else c :: rest

/-- Whether bytes end before it is known that they do not begin with a mark. -/
def isUnfinishedMark (bs : ByteArray) : Bool :=
  bs.size < 3 && bs.data.toList.isPrefixOf [0xEF, 0xBB, 0xBF]

/-- The characters of a file as they are. -/
def characters : Content → Except Error Text
  | .bytes bs => decode bs
  | _ => .error .notText

/-- The document in a file, its lines ended by LF. Of an unfinished mark nothing is left. -/
def document : Content → Except Error Text
  | .bytes bs =>
    if isUnfinishedMark bs then .ok []
    else (decode bs).map fun t => Text.unifyBreaks (dropMark t)
  | _ => .error .notText

/-! ### Data -/

/-- The data of a file, of which a reader is given the characters, their lines ended by LF. -/
def value (read : Text → Except Error Value) : Content → Except Error Value
  | .bytes bs =>
    match decode bs with
    | .error e => .error e
    | .ok t => read (Text.unifyBreaks t)
  | .data v => .ok v
  | .variables _ => .error .notData

end Content

end FeatureDocs
