/-!
# Text

A text is the list of its characters. Blank characters are those with the Unicode property of
separating words (and the four information separators); trimming removes them at the ends.
Joining the pieces of a text with the character it was split at gives it back (`join_splitOn`).
-/

namespace FeatureDocs

/-- A text, character by character. -/
abbrev Text := List Char

instance : Coe String Text := ⟨String.toList⟩

namespace Text

/-- The string with the characters of a text. -/
def asString (t : Text) : String := String.ofList t

/-- The number of bytes that a text takes in UTF-8. -/
def byteSize (t : Text) : Nat := t.foldl (fun n c => n + c.utf8Size) 0

/-! ### Blank characters -/

/-- A character that trimming removes. -/
def isBlankChar (c : Char) : Bool :=
  let n := c.toNat
  (9 ≤ n && n ≤ 13) || (28 ≤ n && n ≤ 32) || n == 0x85 || n == 0xA0 || n == 0x1680 ||
    (0x2000 ≤ n && n ≤ 0x200A) || n == 0x2028 || n == 0x2029 || n == 0x202F || n == 0x205F ||
    n == 0x3000

/-- A text without a character that trimming keeps. -/
def isBlank (t : Text) : Bool := t.all isBlankChar

/-- The text from its first character that is not blank. -/
def trimStart (t : Text) : Text := t.dropWhile isBlankChar

/-- The text up to its last character that is not blank. -/
def trimEnd (t : Text) : Text := (t.reverse.dropWhile isBlankChar).reverse

/-- The text between its first and its last character that is not blank. -/
def trim (t : Text) : Text := trimEnd (trimStart t)

theorem trimStart_eq_nil_iff {t : Text} : trimStart t = [] ↔ isBlank t := by
  induction t with
  | nil => simp [trimStart, isBlank]
  | cons c rest ih =>
    simp only [trimStart, isBlank] at ih
    by_cases h : isBlankChar c <;> simp [trimStart, isBlank, h, ih]

/-! ### Cutting and joining -/

/-- The pieces between the occurrences of `sep`: one more than there are occurrences. -/
def splitOn (sep : Char) (t : Text) : List Text := List.splitOn sep t

/-- The texts one after the other, with `sep` between neighbours. -/
def join (sep : Text) (ts : List Text) : Text := List.intercalate sep ts

theorem splitOn_ne_nil (sep : Char) (t : Text) : splitOn sep t ≠ [] := List.splitOn_ne_nil sep t

/-- Joining the pieces gives the text back. -/
theorem join_splitOn (sep : Char) (t : Text) : join [sep] (splitOn sep t) = t :=
  List.intercalate_splitOn sep

theorem join_cons (sep part : Text) {parts : List Text} (h : parts ≠ []) :
    join sep (part :: parts) = part ++ sep ++ join sep parts := by
  cases parts with
  | nil => exact absurd rfl h
  | cons other parts => exact List.intercalate_cons_cons

/-- The text before the first occurrence of `mark` and the text after it, if it occurs. -/
def cut? (mark : Text) : Text → Option (Text × Text)
  | [] => if mark = [] then some ([], []) else none
  | c :: rest =>
    if mark.isPrefixOf (c :: rest) then some ([], (c :: rest).drop mark.length)
    else (cut? mark rest).map fun (before, after) => (c :: before, after)

/-- The text before the last occurrence of a character and the text after it, if it occurs. -/
def cutLast? (mark : Char) (t : Text) : Option (Text × Text) :=
  match t.reverse.dropWhile (· ≠ mark) with
  | [] => none
  | _ :: before => some (before.reverse, (t.reverse.takeWhile (· ≠ mark)).reverse)

/-- Whether `part` stands somewhere in the text. -/
def contains (t part : Text) : Bool := (cut? part t).isSome

/-- A number in decimal digits. -/
def ofNat (n : Nat) : Text := (Nat.repr n).toList

/-- An integer in decimal digits, with a minus sign in front of a negative one. -/
def ofInt : Int → Text
  | .ofNat n => ofNat n
  | .negSucc n => '-' :: ofNat (n + 1)

/-! ### Order -/

/-- Texts in the order of their first different characters. -/
def le : Text → Text → Bool
  | [], _ => true
  | _ :: _, [] => false
  | c :: t, d :: u => if c = d then le t u else c.toNat < d.toNat

/-- The texts in ascending order. -/
def sort (ts : List Text) : List Text := ts.mergeSort le

end Text

end FeatureDocs
