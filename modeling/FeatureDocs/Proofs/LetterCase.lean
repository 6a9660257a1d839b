import FeatureDocs.Keyword.Table
import Mathlib.Data.List.Forall2
import Mathlib.Tactic.Lemma

/-!
# Keywords and lines in either case

Writing the letters from A to Z in lower case changes neither which characters have a case nor which
are blank, and the lower form of a text not at all, even where a sigma looks at its neighbours
(`Text.lower_foldCase`). So lines, and keywords, that differ only in the case of these letters match
alike, and what is left of a line behind its keyword is the same up to case
(`KeywordTable.match_upToCase`).
-/

namespace FeatureDocs

namespace Text

variable {t u : Text}

/-! ### Letters in lower case -/

/-- The text with its letters from A to Z in lower case. -/
def foldCase (t : Text) : Text := t.map Char.toLower

@[simp] lemma foldCase_cons (c : Char) (t : Text) :
    foldCase (c :: t) = c.toLower :: foldCase t := rfl

/-- What does not tell the cases of a letter apart does not tell a character from its lower form. -/
lemma apply_toLower {α : Type} (f : Char → α)
    (h : ∀ n < 91, 65 ≤ n → f (Char.ofNat n).toLower = f (Char.ofNat n)) (c : Char) :
    f c.toLower = f c := by
  by_cases hupper : c.val ≥ 'A'.val ∧ c.val ≤ 'Z'.val
  · obtain ⟨hfirst, hlast⟩ := hupper
    have hfirst : 65 ≤ c.toNat := UInt32.le_iff_toNat_le.mp hfirst
    have hlast : c.toNat ≤ 90 := UInt32.le_iff_toNat_le.mp hlast
    simpa using h c.toNat (by omega) hfirst
  · have hsame : c.toLower = c := dif_neg hupper
    rw [hsame]

@[simp] lemma lowerChar_toLower (c : Char) : lowerChar c.toLower = lowerChar c :=
  apply_toLower lowerChar (by decide +kernel) c

@[simp] lemma isCased_toLower (c : Char) : isCased c.toLower = isCased c :=
  apply_toLower isCased (by decide +kernel) c

@[simp] lemma isIgnorable_toLower (c : Char) : isIgnorable c.toLower = isIgnorable c :=
  apply_toLower isIgnorable (by decide +kernel) c

@[simp] lemma isBlankChar_toLower (c : Char) : isBlankChar c.toLower = isBlankChar c :=
  apply_toLower isBlankChar (by decide +kernel) c

@[simp] lemma toLower_eq_sigma_iff (c : Char) : c.toLower = 'Σ' ↔ c = 'Σ' := by
  have h := apply_toLower (fun c => decide (c = 'Σ')) (by decide +kernel) c
  simpa using h

/-! ### Operations on texts -/

@[simp] lemma startsCased_foldCase (t : Text) : startsCased (foldCase t) = startsCased t := by
  have hfind : (foldCase t).find? (fun c => !isIgnorable c) =
      (t.find? fun c => !isIgnorable c).map Char.toLower := by
    rw [foldCase, List.find?_map]
    congr 2
    funext c
    simp
  rw [startsCased, startsCased, hfind]
  cases t.find? fun c => !isIgnorable c <;> simp

@[simp] lemma endsCased_toLower (before : Bool) (c : Char) :
    endsCased before c.toLower = endsCased before c := by
  simp [endsCased]

/-- Lowering the ASCII letters first changes nothing about the lower case of a text. -/
lemma lowerFrom_foldCase (before : Bool) (t : Text) :
    lowerFrom before (foldCase t) = lowerFrom before t := by
  induction t generalizing before with
  | nil => rfl
  | cons c t ih => simp [lowerFrom, ih]

/-- The lower form of a text does not depend on the case of its letters, not even where a sigma
looks at them. -/
lemma lower_foldCase (t : Text) : lower (foldCase t) = lower t := lowerFrom_foldCase false t

lemma trimStart_foldCase (t : Text) : trimStart (foldCase t) = foldCase (trimStart t) := by
  rw [trimStart, foldCase, List.dropWhile_map]
  have h : isBlankChar ∘ Char.toLower = isBlankChar := funext isBlankChar_toLower
  rw [h]
  rfl

lemma trimEnd_foldCase (t : Text) : trimEnd (foldCase t) = foldCase (trimEnd t) := by
  have h := trimStart_foldCase t.reverse
  simp only [trimStart, foldCase] at h
  simp only [trimEnd, foldCase]
  rw [← List.map_reverse, h, List.map_reverse]

lemma trim_foldCase (t : Text) : trim (foldCase t) = foldCase (trim t) := by
  rw [trim, trimStart_foldCase, trimEnd_foldCase, trim]

/-! ### Texts in either case -/

/-- Texts that differ only in the case of letters from A to Z. -/
def EqUpToCase (t u : Text) : Prop := foldCase t = foldCase u

instance (t u : Text) : Decidable (EqUpToCase t u) := inferInstanceAs (Decidable (_ = _))

namespace EqUpToCase

lemma refl (t : Text) : EqUpToCase t t := rfl

lemma length_eq (h : EqUpToCase t u) : t.length = u.length := by
  have hlength := congrArg List.length h
  rwa [foldCase, foldCase, List.length_map, List.length_map] at hlength

lemma take (h : EqUpToCase t u) (n : Nat) : EqUpToCase (t.take n) (u.take n) := by
  rw [EqUpToCase, foldCase, foldCase] at h ⊢
  rw [List.map_take, h, List.map_take]

lemma drop (h : EqUpToCase t u) (n : Nat) : EqUpToCase (t.drop n) (u.drop n) := by
  rw [EqUpToCase, foldCase, foldCase] at h ⊢
  rw [List.map_drop, h, List.map_drop]

lemma lower_eq (h : EqUpToCase t u) : lower t = lower u := by
  rw [← lower_foldCase, h, lower_foldCase]

lemma trimStart (h : EqUpToCase t u) : EqUpToCase (trimStart t) (trimStart u) := by
  rw [EqUpToCase, ← trimStart_foldCase, h, trimStart_foldCase]

lemma trim (h : EqUpToCase t u) : EqUpToCase (trim t) (trim u) := by
  rw [EqUpToCase, ← trim_foldCase, h, trim_foldCase]

end EqUpToCase

end Text

namespace KeywordTable

variable {k k' : KeywordTable} {line line' w w' text text' : Text} {c : Category}

/-- Whether a keyword begins a text depends on neither's ASCII case. -/
lemma beginsWith_congr (hw : Text.EqUpToCase w w') (ht : Text.EqUpToCase text text') :
    beginsWith w text = beginsWith w' text' := by
  rw [beginsWith, beginsWith, hw.lower_eq, hw.length_eq, (ht.take _).lower_eq]

/-- The same keyword is found in a line in another case. -/
lemma match?_of_line (h : Text.EqUpToCase line line') : k.match? line c = k.match? line' c := by
  rw [match?, match?]
  congr 1
  funext w
  exact beginsWith_congr (.refl w) h.trimStart

/-- A keyword is found in its place among keywords in another case. -/
lemma match?_of_candidates (h : List.Forall₂ Text.EqUpToCase (k.candidates c) (k'.candidates c))
    (line : Text) : Option.Rel Text.EqUpToCase (k.match? line c) (k'.match? line c) := by
  rw [match?, match?]
  generalize k.candidates c = ws, k'.candidates c = ws' at h
  induction h with
  | nil => exact .none
  | cons hw _ ih =>
    rw [List.find?_cons, List.find?_cons, beginsWith_congr hw (.refl _)]
    split
    · exact .some hw
    · exact ih

/-- Lines that differ only in the case of letters from A to Z have the same keyword of a category,
if they have one, and what is left of them differs only in that case. Keywords that differ so from
those of another table are found where those are, in any line, and leave the same of it. The lines
and the keywords may hold any other characters. -/
theorem match_upToCase (k : KeywordTable) (c : Category) :
    (∀ line line', Text.EqUpToCase line line' →
      (k.Matches line c ↔ k.Matches line' c) ∧ k.match? line c = k.match? line' c ∧
        Text.EqUpToCase (k.strip line c) (k.strip line' c)) ∧
      ∀ k' : KeywordTable, List.Forall₂ Text.EqUpToCase (k.candidates c) (k'.candidates c) →
        ∀ line, (k.Matches line c ↔ k'.Matches line c) ∧
          Option.Rel Text.EqUpToCase (k.match? line c) (k'.match? line c) ∧
          k.strip line c = k'.strip line c := by
  constructor
  · intro line line' h
    have hmatch : k.match? line c = k.match? line' c := match?_of_line h
    refine ⟨by rw [Matches, Matches, hmatch], hmatch, ?_⟩
    rw [strip, strip, hmatch]
    cases k.match? line' c with
    | none => exact .refl _
    | some w => exact (h.trimStart.drop _).trim
  · intro k' h line
    have hmatch := match?_of_candidates h line
    refine ⟨?matching, hmatch, ?strip⟩
    case matching =>
      rw [Matches, Matches]
      generalize k.match? line c = found, k'.match? line c = found' at hmatch
      cases hmatch with
      | some => exact Iff.rfl
      | none => exact Iff.rfl
    case strip =>
      rw [strip, strip]
      generalize k.match? line c = found, k'.match? line c = found' at hmatch
      cases hmatch with
      | some hw => exact congrArg (fun n => Text.trim ((Text.trimStart line).drop n)) hw.length_eq
      | none => rfl

/-- A keyword ends in a sigma, which is final behind a letter in either case where the line is cut,
and not within the line. Another keyword is longer in lower case. -/
theorem match_upToCase_sigma :
    let k : KeywordTable := ⟨"xx", fun _ => ["b", "aΣ", "İ"]⟩
    let k' : KeywordTable := ⟨"xx", fun _ => ["B", "AΣ", "İ"]⟩
    let line : Text := " AΣxΣy"
    let line' : Text := " aΣXΣY"
    Text.EqUpToCase line line' ∧ k.match? line .context = k.match? line' .context ∧
      k.match? line' .context = some "aΣ" ∧
      Text.EqUpToCase (k.strip line .context) (k.strip line' .context) ∧
      k.strip line .context = "xΣy" ∧ k.strip line' .context = "XΣY" ∧
      List.Forall₂ Text.EqUpToCase (k.candidates .context) (k'.candidates .context) ∧
      (k.Matches line .context ↔ k'.Matches line .context) ∧
      k'.match? line .context = some "AΣ" ∧ k.strip line .context = k'.strip line .context := by
  intro k k' line line'
  have hline : Text.EqUpToCase line line' := by decide
  have hcandidates : List.Forall₂ Text.EqUpToCase (k.candidates .context)
      (k'.candidates .context) := by decide
  obtain ⟨hlines, htables⟩ := match_upToCase k .context
  obtain ⟨-, hmatch, hstrip⟩ := hlines line line' hline
  obtain ⟨hmatches, -, hsame⟩ := htables k' hcandidates line
  exact ⟨hline, hmatch, by decide +kernel, hstrip, by decide +kernel, by decide +kernel,
    hcandidates, hmatches, by decide +kernel, hsame⟩

end KeywordTable

end FeatureDocs
