import FeatureDocs.Proofs.Json
import FeatureDocs.Proofs.Lines
import Mathlib.Data.List.DropRight

/-!
# Texts without line breaks

A text is unbroken if no line ends in it. All lines of a document that is one text are unbroken; the
lines of a list are unbroken if and only if they have their break characters at their ends
(`Source.forall_unbroken_iff`).
-/

namespace FeatureDocs

namespace Text

/-- A text in which no line ends. -/
def Unbroken (t : Text) : Prop := ∀ c ∈ t, ¬ isBreakChar c

instance : DecidablePred Unbroken := fun t => List.decidableBAll (¬ isBreakChar ·) t

variable {t u : Text} {c : Char}

@[simp] lemma unbroken_nil : Unbroken [] := List.forall_mem_nil _

lemma unbroken_cons : Unbroken (c :: t) ↔ ¬ isBreakChar c ∧ t.Unbroken :=
  List.forall_mem_cons

@[simp] lemma unbroken_append : (t ++ u).Unbroken ↔ t.Unbroken ∧ u.Unbroken :=
  List.forall_mem_append

lemma unbroken_flatten {ts : List Text} : Unbroken ts.flatten ↔ ∀ t ∈ ts, Unbroken t :=
  List.forall_mem_flatten

/-- No part of an unbroken text is broken. -/
lemma Unbroken.of_part (h : u.Unbroken) (hpart : t <:+: u) : t.Unbroken :=
  fun c hc => h c (hpart.subset hc)

@[simp] lemma unbroken_ofNat (n : Nat) : (ofNat n).Unbroken := by
  intro c hc hbreak
  have hdigit := Json.isDigit_of_mem_ofNat hc
  rcases isBreakChar_iff.mp hbreak with rfl | rfl
  · exact absurd hdigit (by decide)
  · exact absurd hdigit (by decide)

/-! ### Lines -/

/-- A line of a text has no break in it. -/
lemma unbroken_of_mem_lines {l : Text} (h : l ∈ lines t) : l.Unbroken := by
  induction t using byBreaks generalizing l with
  | nil => cases h
  | lineBreak s t hs ih =>
    rw [lines_break hs] at h
    rcases List.mem_cons.mp h with rfl | h
    · exact unbroken_nil
    · exact ih h
  | char c t hc ih =>
    rw [lines_char hc] at h
    cases hls : lines t with
    | nil =>
      rw [hls] at h
      obtain rfl := List.mem_singleton.mp h
      exact unbroken_cons.mpr ⟨hc, unbroken_nil⟩
    | cons first more =>
      rw [hls] at h ih
      rcases List.mem_cons.mp h with rfl | h
      · exact unbroken_cons.mpr ⟨hc, ih List.mem_cons_self⟩
      · exact ih (List.mem_cons_of_mem _ h)

/-- A text with all its break characters at its end. -/
def BreaksAtEnd (t : Text) : Prop :=
  ∃ line breaks, t = line ++ breaks ∧ line.Unbroken ∧ ∀ c ∈ breaks, isBreakChar c

lemma dropBreaks_eq_rdropWhile (t : Text) : dropBreaks t = t.rdropWhile isBreakChar := rfl

/-- What is left without the breaks at the end is unbroken when there were no others. -/
lemma unbroken_dropBreaks_iff : (dropBreaks t).Unbroken ↔ t.BreaksAtEnd := by
  constructor
  · intro h
    rw [dropBreaks_eq_rdropWhile] at h
    have ht := List.rdropWhile_append_rtakeWhile (p := isBreakChar) (l := t)
    exact ⟨_, t.rtakeWhile isBreakChar, ht.symm, h, fun _ => List.mem_rtakeWhile_imp⟩
  · rintro ⟨line, breaks, rfl, hline, hbreaks⟩
    have hreverse : ∀ c ∈ breaks.reverse, isBreakChar c :=
      fun c hc => hbreaks c (List.mem_reverse.mp hc)
    have heq : dropBreaks (line ++ breaks) = line.rdropWhile isBreakChar := by
      rw [dropBreaks, List.reverse_append, List.dropWhile_append_of_pos hreverse]
      rfl
    rw [heq]
    exact hline.of_part (List.rdropWhile_prefix isBreakChar line).isInfix

end Text

/-- A source that is one text, or lines with all their break characters at their ends. -/
def Source.BreaksAtEnds : Source → Prop
  | .document _ => True
  | .lines ls => ∀ l ∈ ls, Text.BreaksAtEnd l

/-- A source has unbroken lines, unless a line of a list goes on behind a break. -/
lemma Source.forall_unbroken_iff (s : Source) :
    (∀ l ∈ s.toLines, Text.Unbroken l) ↔ s.BreaksAtEnds := by
  cases s with
  | document t => exact iff_of_true (fun _ => Text.unbroken_of_mem_lines) trivial
  | lines ls => simp only [toLines, BreaksAtEnds, List.forall_mem_map, Text.unbroken_dropBreaks_iff]

end FeatureDocs
