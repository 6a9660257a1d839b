import FeatureDocs.Text.CaseTable

/-!
# Letter case

The lower and the upper form of a text. Each character has its own lower form, but for a capital
sigma, which becomes a final sigma at the end of a word. `length_le_lower` and `lower_eq_nil_iff`
say that no character is lost.
-/

namespace FeatureDocs.Text

/-- The character a table's offset away from `c`; `c` itself if no run of the table holds it. -/
def shifted (table : List (Run × Int)) (c : Char) : Char :=
  match table.find? (·.1.contains c.toNat) with
  | some (_, offset) => Char.ofNat (c.toNat + offset).toNat
  | none => c

/-- Whether one of the ranges holds a character. -/
def inRanges (ranges : List (Nat × Nat)) (c : Char) : Bool :=
  ranges.any fun (first, last) => first ≤ c.toNat && c.toNat ≤ last

/-! ### Lower case -/

/-- The lower form of a character that is looked at alone. -/
def lowerChar (c : Char) : Text :=
  if c.toNat < 128 then [c.toLower]
  else if c = 'İ' then ['i', '\u0307']
  else [shifted lowerOffsets c]

/-- A character with a case. -/
def isCased (c : Char) : Bool := inRanges casedRanges c

/-- A character that does not count when the end of a word is looked for. -/
def isIgnorable (c : Char) : Bool := inRanges ignorableRanges c

/-- Whether the first character that counts has a case. -/
def startsCased (t : Text) : Bool :=
  match t.find? fun c => !isIgnorable c with
  | some c => isCased c
  | none => false

/-- Whether the last character that counts has a case, after one more character. -/
def endsCased (before : Bool) (c : Char) : Bool :=
  if isIgnorable c then before else isCased c

/-- The lower form of the rest of a text; `before` tells whether what precedes ends in a cased
character. A capital sigma is final when a cased character precedes and none follows. -/
def lowerFrom (before : Bool) : Text → Text
  | [] => []
  | c :: rest =>
    (if c = 'Σ' ∧ before ∧ ¬ startsCased rest then ['ς'] else lowerChar c) ++
      lowerFrom (endsCased before c) rest

/-- The lower form of a text. -/
def lower (t : Text) : Text := lowerFrom false t

theorem lowerChar_ne_nil (c : Char) : lowerChar c ≠ [] := by
  unfold lowerChar
  split
  · simp
  · split <;> simp

theorem length_le_lowerFrom (before : Bool) (t : Text) :
    t.length ≤ (lowerFrom before t).length := by
  induction t generalizing before with
  | nil => simp
  | cons c rest ih =>
    have h := ih (endsCased before c)
    have hc := List.length_pos_iff.2 (lowerChar_ne_nil c)
    unfold lowerFrom
    split <;> simp <;> omega

/-- Lower case never shortens a text. -/
theorem length_le_lower (t : Text) : t.length ≤ (lower t).length := length_le_lowerFrom false t

theorem lower_eq_nil_iff {t : Text} : lower t = [] ↔ t = [] := by
  constructor
  · intro h
    have := length_le_lower t
    rw [h] at this
    exact List.eq_nil_of_length_eq_zero (by simpa using this)
  · rintro rfl
    rfl

/-! ### Upper case -/

/-- The upper form of a character. -/
def upperChar (c : Char) : Text :=
  if c.toNat < 128 then [c.toUpper]
  else
    match upperExpansions.lookup c.toNat with
    | some expansion => expansion.map Char.ofNat
    | none => [shifted upperOffsets c]

/-- The upper form of a text. -/
def upper (t : Text) : Text := t.flatMap upperChar

end FeatureDocs.Text
