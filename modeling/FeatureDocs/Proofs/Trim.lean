import FeatureDocs.Document.Reading
import Mathlib.Data.List.DropRight
import Mathlib.Tactic.Lemma

/-!
# Trimming

A text is its trimmed text between blank ones (`eq_append_trim`), and blank text at either end is
lost in trimming. A line is the marker of a doc string when it is the marker between blank texts,
and its indentation is what stands before the marker (`trim_eq_marker_iff`, `cut?_marker`).
-/

namespace FeatureDocs

namespace Text

lemma isBlank_iff {t : Text} : isBlank t ↔ ∀ c ∈ t, isBlankChar c := by
  simp [isBlank]

lemma isBlank_append {t u : Text} : isBlank (t ++ u) ↔ isBlank t ∧ isBlank u := by
  simp [isBlank]

lemma trimEnd_eq_rdropWhile (t : Text) : trimEnd t = t.rdropWhile isBlankChar := rfl

lemma trimStart_append {p : Text} (hp : isBlank p) (t : Text) :
    trimStart (p ++ t) = trimStart t :=
  List.dropWhile_append_of_pos (isBlank_iff.mp hp)

lemma trimEnd_append {q : Text} (hq : isBlank q) (t : Text) : trimEnd (t ++ q) = trimEnd t := by
  have hq' : ∀ c ∈ q.reverse, isBlankChar c := by
    intro c hc
    exact isBlank_iff.mp hq c (List.mem_reverse.mp hc)
  rw [trimEnd, List.reverse_append, List.dropWhile_append_of_pos hq', trimEnd]

/-- Blank text in front is lost. -/
lemma trim_append_left {p : Text} (hp : isBlank p) (t : Text) : trim (p ++ t) = trim t := by
  rw [trim, trimStart_append hp, trim]

/-- Blank text behind is lost. -/
lemma trim_append_right {q : Text} (hq : isBlank q) (t : Text) : trim (t ++ q) = trim t := by
  by_cases ht : isBlank t
  · have htq : isBlank (t ++ q) := isBlank_append.mpr ⟨ht, hq⟩
    rw [trim, trim, trimStart_eq_nil_iff.mpr htq, trimStart_eq_nil_iff.mpr ht]
  · have hne : t.dropWhile isBlankChar ≠ [] := fun h => ht (trimStart_eq_nil_iff.mp h)
    have hstart : trimStart (t ++ q) = trimStart t ++ q := by
      simp [trimStart, List.dropWhile_append, hne]
    rw [trim, hstart, trimEnd_append hq, trim]

lemma trim_eq_nil_iff {t : Text} : trim t = [] ↔ isBlank t := by
  constructor
  · intro h
    have hall : ∀ c ∈ trimStart t, isBlankChar c := List.rdropWhile_eq_nil_iff.mp h
    have : isBlank (t.takeWhile isBlankChar ++ trimStart t) := by
      refine isBlank_append.mpr ⟨isBlank_iff.mpr fun c hc => ?_, isBlank_iff.mpr hall⟩
      exact List.mem_takeWhile_imp hc
    rwa [trimStart, List.takeWhile_append_dropWhile] at this
  · intro h
    rw [trim, trimStart_eq_nil_iff.mpr h]
    rfl

/-- Behind its first character that is not blank, a text is its trimmed text and blank text. -/
lemma trimStart_eq_append (t : Text) : ∃ q, isBlank q ∧ trimStart t = trim t ++ q := by
  refine ⟨(trimStart t).rtakeWhile isBlankChar, ?_, ?_⟩
  · exact isBlank_iff.mpr fun c hc => List.mem_rtakeWhile_imp hc
  · rw [trim, trimEnd_eq_rdropWhile, List.rdropWhile_append_rtakeWhile]

/-- A text is its trimmed text between blank ones. -/
lemma eq_append_trim (t : Text) : ∃ p q, isBlank p ∧ isBlank q ∧ t = p ++ (trim t ++ q) := by
  obtain ⟨q, hq, hstart⟩ := trimStart_eq_append t
  refine ⟨t.takeWhile isBlankChar, q, ?_, hq, ?_⟩
  · exact isBlank_iff.mpr fun c hc => List.mem_takeWhile_imp hc
  · rw [← hstart, trimStart, List.takeWhile_append_dropWhile]

lemma trimStart_trim (t : Text) : trimStart (trim t) = trim t := by
  obtain ⟨q, -, hq⟩ := trimStart_eq_append t
  have hstart : trimStart (trim t ++ q) = trim t ++ q := by
    rw [← hq]
    exact List.dropWhile_idempotent _ _
  rw [trimStart, List.dropWhile_eq_self_iff] at hstart ⊢
  intro hpos
  have hfirst := hstart (by rw [List.length_append]; omega)
  rwa [List.getElem_append_left hpos] at hfirst

lemma trim_trim (t : Text) : trim (trim t) = trim t := by
  obtain ⟨p, q, hp, hq, ht⟩ := eq_append_trim t
  conv_rhs => rw [ht, trim_append_left hp, trim_append_right hq]

end Text

/-! ### The marker of a doc string -/

lemma trim_docStringMarker : Text.trim docStringMarker = docStringMarker := by decide

/-- A marker line is the marker between blank texts. -/
lemma trim_eq_marker_iff {line : Text} :
    Text.trim line = docStringMarker ↔
      ∃ p q, Text.isBlank p ∧ Text.isBlank q ∧ line = p ++ (docStringMarker ++ q) := by
  constructor
  · intro h
    obtain ⟨p, q, hp, hq, hline⟩ := Text.eq_append_trim line
    exact ⟨p, q, hp, hq, by rwa [h] at hline⟩
  · rintro ⟨p, q, hp, hq, rfl⟩
    rw [Text.trim_append_left hp, Text.trim_append_right hq, trim_docStringMarker]

lemma not_isBlank_of_trim_eq_marker {line : Text} (h : Text.trim line = docStringMarker) :
    ¬ Text.isBlank line := by
  intro hblank
  rw [Text.trim_eq_nil_iff.mpr hblank] at h
  exact absurd h (by decide)

lemma not_isRow_of_trim_eq_marker {line : Text} (h : Text.trim line = docStringMarker) :
    ¬ DataTable.isRow line := by
  rw [DataTable.isRow, h]
  decide

lemma not_isRow_of_isBlank {line : Text} (h : Text.isBlank line) : ¬ DataTable.isRow line := by
  rw [DataTable.isRow, Text.trim_eq_nil_iff.mpr h]
  decide

/-- The indentation of a marker line is the blank text before the marker. -/
lemma takeWhile_marker {p : Text} (hp : Text.isBlank p) (q : Text) :
    (p ++ (docStringMarker ++ q)).takeWhile Text.isBlankChar = p := by
  rw [List.takeWhile_append_of_pos (Text.isBlank_iff.mp hp)]
  have hq : (docStringMarker ++ q).takeWhile Text.isBlankChar = [] := rfl
  rw [hq, List.append_nil]

/-- The text before the first marker of a marker line is its indentation. -/
lemma cut?_marker {p : Text} (hp : Text.isBlank p) (q : Text) :
    Text.cut? docStringMarker (p ++ (docStringMarker ++ q)) = some (p, q) := by
  induction p with
  | nil => rfl
  | cons c p ih =>
    have hc : Text.isBlankChar c := Text.isBlank_iff.mp hp c List.mem_cons_self
    have hp' : Text.isBlank p :=
      Text.isBlank_iff.mpr fun d hd => Text.isBlank_iff.mp hp d (List.mem_cons_of_mem c hd)
    -- the marker cannot begin at a blank character
    have hne : docStringMarker.isPrefixOf (c :: (p ++ (docStringMarker ++ q))) = false := by
      have : ('"' == c) = false := by
        rw [beq_eq_false_iff_ne]
        rintro rfl
        exact absurd hc (by decide)
      simp [docStringMarker, List.isPrefixOf, this]
    rw [List.cons_append, Text.cut?, hne, ih hp']
    rfl

end FeatureDocs
