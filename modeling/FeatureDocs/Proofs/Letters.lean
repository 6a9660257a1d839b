import FeatureDocs.Proofs.Trim
import FeatureDocs.Text.Case

/-!
# Lower forms letter by letter

Two things keep the lower form of a text from being that of its characters one by one: a capital
sigma looks at its neighbours, and one capital i becomes two characters. Both leave a trace in the
lower form, so a text without these traces is read letter by letter (`Letterwise.lower_eq`). Blank
characters are their own lower form.
-/

namespace FeatureDocs.Text

variable {t : Text} {c : Char}

/-- The first character of the lower form of a character. -/
def lowerLetter (c : Char) : Char := (lowerChar c).headD c

/-- The lower form shows neither a final sigma nor the dot of a capital i. -/
def Letterwise (t : Text) : Prop := '\u0307' ∉ lower t ∧ 'ς' ∉ lower t

instance (t : Text) : Decidable (Letterwise t) := inferInstanceAs (Decidable (_ ∧ _))

/-- A character has one character in lower case, except for the dotted capital. -/
lemma lowerChar_cases (c : Char) :
    lowerChar c = ['i', '\u0307'] ∨ lowerChar c = [lowerLetter c] := by
  unfold lowerLetter lowerChar
  split_ifs
  · exact .inr rfl
  · exact .inl rfl
  · exact .inr rfl

/-- A text without the dot and the final sigma is lowered character by character. -/
lemma lowerFrom_eq_map {before : Bool} (hdot : '\u0307' ∉ lowerFrom before t)
    (hsigma : 'ς' ∉ lowerFrom before t) : lowerFrom before t = t.map lowerLetter := by
  induction t generalizing before with
  | nil => rfl
  | cons c rest ih =>
    rw [lowerFrom, List.mem_append, not_or] at hdot hsigma
    rw [lowerFrom]
    have hfinal : ¬ (c = 'Σ' ∧ before ∧ ¬ startsCased rest) := by
      intro h
      rw [if_pos h] at hsigma
      exact hsigma.1 List.mem_cons_self
    rw [if_neg hfinal] at hdot ⊢
    rw [ih hdot.2 hsigma.2, List.map_cons]
    rcases lowerChar_cases c with h | h
    · rw [h] at hdot
      exact absurd (List.mem_cons_of_mem _ List.mem_cons_self) hdot.1
    · rw [h]
      rfl

lemma Letterwise.lower_eq (h : Letterwise t) : lower t = t.map lowerLetter :=
  lowerFrom_eq_map h.1 h.2

/-- Text that is lowered letter by letter keeps its length. -/
lemma Letterwise.length_lower (h : Letterwise t) : (lower t).length = t.length := by
  rw [h.lower_eq, List.length_map]

/-! ### Blank characters -/

/-- The numbers of the blank characters. -/
def blankCodes : List Nat :=
  [9, 10, 11, 12, 13, 28, 29, 30, 31, 32, 0x85, 0xA0, 0x1680, 0x2000, 0x2001, 0x2002, 0x2003,
   0x2004, 0x2005, 0x2006, 0x2007, 0x2008, 0x2009, 0x200A, 0x2028, 0x2029, 0x202F, 0x205F, 0x3000]

lemma toNat_mem_blankCodes (h : isBlankChar c) : c.toNat ∈ blankCodes := by
  simp only [isBlankChar, Bool.or_eq_true, Bool.and_eq_true, decide_eq_true_eq, beq_iff_eq] at h
  simp only [blankCodes, List.mem_cons, List.not_mem_nil, or_false]
  omega

lemma lowerLetter_of_isBlankChar (h : isBlankChar c) : lowerLetter c = c := by
  have hcodes : ∀ n ∈ blankCodes, lowerLetter (Char.ofNat n) = Char.ofNat n := by decide +kernel
  simpa using hcodes _ (toNat_mem_blankCodes h)

/-! ### Blank ends -/

/-- The first character of a text is blank. -/
def BeginsBlank (t : Text) : Prop := t.head?.any isBlankChar

/-- The last character of a text is blank. -/
def EndsBlank (t : Text) : Prop := t.getLast?.any isBlankChar

instance (t : Text) : Decidable t.BeginsBlank := inferInstanceAs (Decidable (_ = true))

instance (t : Text) : Decidable t.EndsBlank := inferInstanceAs (Decidable (_ = true))

lemma endsBlank_append {u : Text} (hu : u ≠ []) : (t ++ u).EndsBlank ↔ u.EndsBlank := by
  rw [EndsBlank, EndsBlank, List.getLast?_append_of_ne_nil _ hu]

lemma endsBlank_of_isBlank (ht : isBlank t) (hne : t ≠ []) : t.EndsBlank := by
  obtain ⟨c, hc⟩ := Option.ne_none_iff_exists'.mp (mt List.getLast?_eq_none_iff.mp hne)
  rw [EndsBlank, hc]
  exact isBlank_iff.mp ht c (List.mem_of_getLast? hc)

lemma trimStart_eq_self_iff : trimStart t = t ↔ ¬ t.BeginsBlank := by
  rw [trimStart, List.dropWhile_eq_self_iff]
  cases t <;> simp [BeginsBlank]

/-- A text with no blank at either end is trimmed. -/
lemma trim_eq_self (hbegins : ¬ t.BeginsBlank) (hends : ¬ t.EndsBlank) : trim t = t := by
  rw [trim, trimStart_eq_self_iff.mpr hbegins, trimEnd_eq_rdropWhile, List.rdropWhile_eq_self_iff]
  intro hne hblank
  exact hends (by simpa [EndsBlank, List.getLast?_eq_getLast_of_ne_nil hne] using hblank)

lemma not_beginsBlank_of_trim_eq_self (h : trim t = t) : ¬ t.BeginsBlank := by
  rw [← trimStart_eq_self_iff, ← h, trimStart_trim]

lemma not_endsBlank_of_trim_eq_self (h : trim t = t) : ¬ t.EndsBlank := by
  rcases eq_or_ne t [] with rfl | hne
  · simp [EndsBlank]
  have hdrop : (trimStart t).rdropWhile isBlankChar ≠ [] := by
    rw [← trimEnd_eq_rdropWhile, ← trim, h]
    exact hne
  have hlast := List.rdropWhile_last_not isBlankChar (trimStart t) hdrop
  rw [EndsBlank, ← h, trim, trimEnd_eq_rdropWhile, List.getLast?_eq_getLast_of_ne_nil hdrop]
  simpa using hlast

/-- The code of a character made from a number, which is zero for numbers that no character has. -/
lemma toNat_ofNat (n : Nat) : (Char.ofNat n).toNat = if n.isValidChar then n else 0 := by
  by_cases h : n.isValidChar
  · rw [Char.ofNat, dif_pos h, if_pos h]
    rfl
  · rw [Char.ofNat, dif_neg h, if_neg h]
    rfl

/-- No offset of the table leads to a blank character. -/
lemma not_contains_of_blankCodes :
    ∀ e ∈ lowerOffsets, ∀ n ∈ blankCodes, ¬ e.1.contains (n - e.2).toNat := by
  decide +kernel

/-- A character whose lower case is blank is blank. -/
lemma isBlankChar_of_shifted (h : isBlankChar (shifted lowerOffsets c)) : isBlankChar c := by
  rw [shifted] at h
  split at h
  · next r offset hfind =>
    have hmem := List.mem_of_find?_eq_some hfind
    have hcontains : r.contains c.toNat := by simpa using List.find?_some hfind
    have hcode := toNat_mem_blankCodes h
    rw [toNat_ofNat] at hcode
    split_ifs at hcode
    · have hpos : 0 < (c.toNat + offset).toNat := by
        rcases Nat.eq_zero_or_pos (c.toNat + offset).toNat with hzero | hpos
        · rw [hzero] at hcode
          exact absurd hcode (by decide)
        · exact hpos
      have hback : (((c.toNat + offset).toNat : Int) - offset).toNat = c.toNat := by omega
      -- no range that is shifted holds a character with a blank as its lower case
      have hnot := not_contains_of_blankCodes _ hmem _ hcode
      rw [hback] at hnot
      exact absurd hcontains hnot
    · exact absurd hcode (by decide)
  · exact h

/-- The lower form of a character ends in a blank only if the character is blank. -/
lemma endsBlank_lowerChar (c : Char) : (lowerChar c).EndsBlank ↔ isBlankChar c := by
  constructor
  · intro h
    unfold lowerChar at h
    split_ifs at h with hascii hdot
    · have hcodes : ∀ n < 128, isBlankChar (Char.ofNat n).toLower → isBlankChar (Char.ofNat n) := by
        decide +kernel
      simpa using hcodes c.toNat hascii (by simpa [EndsBlank] using h)
    · exact absurd h (by decide)
    · exact isBlankChar_of_shifted (by simpa [EndsBlank] using h)
  · intro h
    have hletter := lowerLetter_of_isBlankChar h
    rcases lowerChar_cases c with hc | hc
    · rw [lowerLetter, hc] at hletter
      rw [← show 'i' = c from hletter] at h
      exact absurd h (by decide)
    · rw [hc, hletter]
      exact h

lemma beginsBlank_lowerChar_append (c : Char) (t : Text) :
    (lowerChar c ++ t : Text).BeginsBlank ↔ isBlankChar c := by
  rw [← endsBlank_lowerChar]
  rcases lowerChar_cases c with h | h
  · rw [h]
    exact iff_of_false (by simp [BeginsBlank, isBlankChar]) (by decide)
  · rw [h]
    rfl

/-- A text begins with a blank if its lower form does. -/
lemma beginsBlank_lower : (lower t).BeginsBlank ↔ t.BeginsBlank := by
  cases t with
  | nil => rfl
  | cons c rest =>
    have hfirst : ¬ (c = 'Σ' ∧ false = true ∧ ¬ startsCased rest) := by simp
    rw [lower, lowerFrom, if_neg hfirst, beginsBlank_lowerChar_append]
    rfl

/-- Lower case neither makes nor loses a blank at the end. -/
lemma endsBlank_lowerFrom (before : Bool) (t : Text) :
    (lowerFrom before t).EndsBlank ↔ t.EndsBlank := by
  induction t generalizing before with
  | nil => rfl
  | cons c rest ih =>
    rw [lowerFrom]
    rcases eq_or_ne rest [] with rfl | hne
    · rw [lowerFrom, List.append_nil]
      split_ifs with hfinal
      · rw [hfinal.1]
        decide
      · rw [endsBlank_lowerChar]
        rfl
    · have hlower : lowerFrom (endsCased before c) rest ≠ [] := by
        rw [← List.length_pos_iff] at hne ⊢
        exact Nat.lt_of_lt_of_le hne (length_le_lowerFrom _ rest)
      rw [endsBlank_append hlower, ih, ← endsBlank_append (t := [c]) hne]
      rfl

/-- A text ends in a blank if its lower form does. -/
lemma endsBlank_lower : (lower t).EndsBlank ↔ t.EndsBlank := endsBlank_lowerFrom false t

end FeatureDocs.Text
