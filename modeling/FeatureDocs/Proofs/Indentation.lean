import FeatureDocs.Document.Outcome
import FeatureDocs.Proofs.Alike
import FeatureDocs.Proofs.Keywords
import Mathlib.Tactic.IntervalCases

/-!
# Indentation and blanks at the end of a line

In a packaged language, two lines with the same trimmed text look the same to the reader, but for
one thing: a conjunction is looked for in the line as it stands, and may end in a blank that trimming
takes away. Such a line begins with no other keyword, so it is rejected either way
(`ReaderState.read_of_trim_eq`). Two documents whose lines have the same trimmed texts, and are the
same in doc strings, are therefore read alike, up to the reason of a rejection
(`KeywordTable.parse_reindent`).
-/

namespace FeatureDocs

variable {k : KeywordTable} {line line' : Text}

namespace KeywordTable.Distinct

variable (hk : k.Distinct)
include hk

/-- Lines that differ in their blanks only are alike for distinct keywords. -/
lemma alike_of_trim_eq (h : Text.trim line = Text.trim line') : Alike k k line line' := by
  have hblank : Text.isBlank line ↔ Text.isBlank line' := by
    rw [← Text.trim_eq_nil_iff, ← Text.trim_eq_nil_iff, h]
  have hfeature : ∀ {l l' : Text}, Text.trim l = Text.trim l' →
      k.Matches l .feature → k.Matches l' .feature := by
    intro l l' heq hl
    have htrim := hk.matches_trim_feature hl
    rw [heq] at htrim
    exact hk.matches_of_trim htrim
  exact
    { blank := Bool.eq_iff_iff.mpr hblank
      row := by rw [DataTable.isRow, DataTable.isRow, h]
      cells := fun _ => by rw [DataTable.cells, DataTable.cells, h]
      marker := by rw [h]
      feature := ⟨hfeature h, hfeature h.symm⟩
      trimmed := fun c => by rw [h]
      strip := fun c => by rw [h] }

/-- A conjunction that is one or not, as the line is indented or not, is cut by trimming; what is
left of it begins with no keyword. -/
lemma unclaimed_of_conjunction (h : Text.trim line = Text.trim line')
    (hne : ¬ (k.Matches line .conjunction ↔ k.Matches line' .conjunction)) (c : Category) :
    ¬ k.Matches (Text.trim line) c := by
  intro hc
  have hline : k.Matches line c := hk.matches_of_trim hc
  have hline' : k.Matches line' c := hk.matches_of_trim (h ▸ hc)
  refine hne ⟨fun hconj => ?_, fun hconj => ?_⟩
  · rwa [hk.eq_of_matches hconj hline]
  · rwa [hk.eq_of_matches hconj hline']

end KeywordTable.Distinct

/-! ### Documents -/

/-- Two readings that are the same, or of documents that are rejected for the same line. -/
inductive Reading.SameButReason : Reading → Reading → Prop
  | same (r : Reading) : SameButReason r r
  | rejected (s : ReaderState) (fault fault' : Fault) :
      SameButReason (s.reject fault) (s.reject fault')

lemma Reading.SameButReason.features {r r' : Reading} (h : r.SameButReason r') :
    r.features = r'.features := by
  cases h <;> rfl

lemma Reading.SameButReason.rejection {r r' : Reading} (h : r.SameButReason r') :
    r.rejection.map (fun e => (e.kindName, e.line?)) =
      r'.rejection.map (fun e => (e.kindName, e.line?)) := by
  cases h <;> rfl

namespace ReaderState

variable {s s' : ReaderState}

/-- A doc string is open before a line that belongs to one, or after it. -/
lemma inDocString_of_quotes (h : s.Quotes line) :
    s.inDocString ∨ ∃ s', s.read k line = .ok s' ∧ s'.inDocString := by
  obtain ⟨f, b, step, hc, hopen | ⟨step', hoffer, hopen⟩⟩ := h
  · left
    have hin := mt (inDocString_step hc).mp hopen
    simpa using hin
  · right
    have hread : s.read k line = .ok (s.advance.goto f (.step b step')) := by
      simp only [ReaderState.read, hc, hoffer]
    have hin := mt (inDocString_step (s := s.advance.goto f (.step b step')) rfl).mp hopen
    exact ⟨_, hread, by simpa using hin⟩

/-- Two lines with the same trimmed text do the same, or are both rejected. -/
lemma read_of_trim_eq (hk : k.Distinct) (h : Text.trim line = Text.trim line')
    (hquotes : s.Quotes line → line = line') :
    s.read k line = s.read k line' ∨
      ∃ fault fault', s.read k line = .error (s.advance.reject fault) ∧
        s.read k line' = .error (s.advance.reject fault') := by
  have halike := hk.alike_of_trim_eq h
  by_cases hconj : (∃ f b step, s.current = some (f, .step b step)) →
      (k.Matches line .conjunction ↔ k.Matches line' .conjunction)
  · exact .inl (s.read_alike halike hconj (fun _ _ => h) hquotes)
  · -- the lines are looked at behind a step, and one of them is a conjunction as it stands
    rw [Classical.not_imp] at hconj
    obtain ⟨⟨f, b, step, hc⟩, hconj⟩ := hconj
    have ht := hk.unclaimed_of_conjunction h hconj
    have ht' : ∀ c, ¬ k.Matches (Text.trim line') c := by
      rw [← h]
      exact ht
    have hf : ¬ k.Matches line .feature := fun hf => ht _ (hk.matches_trim_feature hf)
    have hf' : ¬ k.Matches line' .feature := fun hf => ht' _ (hk.matches_trim_feature hf)
    have hoffer := step.offer_alike halike fun hq => hquotes ⟨f, b, step, hc, hq⟩
    obtain ⟨fault, hfault⟩ :=
      readAfterStep_of_unclaimed (s := s.advance) hf ht f (b.addStep step.close) step.kind
    obtain ⟨fault', hfault'⟩ :=
      readAfterStep_of_unclaimed (s := s.advance) hf' ht' f (b.addStep step.close) step.kind
    simp only [ReaderState.read, hc, ← hoffer]
    cases step.offer line with
    | taken step' => exact .inl rfl
    | refused fault => exact .inl rfl
    | passed => exact .inr ⟨fault, fault', hfault, hfault'⟩

lemma docStringOpen_succ (h : s.read k line = .ok s') (rest : List Text) (n : Nat) :
    s.docStringOpen k (line :: rest) (n + 1) = s'.docStringOpen k rest n := by
  simp only [docStringOpen, List.take_succ_cons, readSome, h]

/-- Line by line. -/
lemma readAll_of_trim_eq (hk : k.Distinct) {ls ls' : List Text} (hlength : ls'.length = ls.length)
    (h : ∀ i line line', ls[i]? = some line → ls'[i]? = some line' →
      Text.trim line = Text.trim line' ∧
        (s.docStringOpen k ls i ∨ s.docStringOpen k ls (i + 1) → line = line')) :
    (s.readAll k ls).SameButReason (s.readAll k ls') := by
  induction ls generalizing s ls' with
  | nil =>
    rw [List.eq_nil_of_length_eq_zero hlength]
    exact .same _
  | cons line rest ih =>
    cases ls' with
    | nil => cases hlength
    | cons line' rest' =>
      obtain ⟨htrim, hverbatim⟩ := h 0 line line' rfl rfl
      -- a quoted line is inside the doc string before or behind it, and there the two texts agree
      have hquotes : s.Quotes line → line = line' := by
        intro hq
        rcases inDocString_of_quotes (k := k) hq with hin | ⟨s₁, hread, hin⟩
        · exact hverbatim (.inl hin)
        · exact hverbatim (.inr ((docStringOpen_succ hread rest 0).trans hin))
      simp only [ReaderState.readAll]
      rcases read_of_trim_eq hk htrim hquotes with heq | ⟨fault, fault', hread, hread'⟩
      · rw [← heq]
        cases hread : s.read k line with
        | error r => exact .same r
        | ok s₁ =>
          refine ih (Nat.succ.inj hlength) fun i l l' hl hl' => ?_
          rw [← docStringOpen_succ hread rest, ← docStringOpen_succ hread rest]
          exact h (i + 1) l l' hl hl'
      · rw [hread, hread']
        exact .rejected _ _ _

end ReaderState

/-- In a packaged language, indenting lines or adding blanks at their ends, and the reverse, changes
nothing outside of doc strings, except that a document may be rejected for another reason in the same
line. -/
theorem KeywordTable.parse_reindent (language : Text) (k : KeywordTable)
    (hk : select Dataset.packaged language = .ok k) (resolver : Option Resolver) (source : Text)
    (document document' : Source) (hlength : document'.toLines.length = document.toLines.length)
    (hlines : ∀ i line line', document.toLines[i]? = some line → document'.toLines[i]? = some line' →
      Text.trim line = Text.trim line' ∧
        (k.docStringOpen document.toLines i ∨ k.docStringOpen document.toLines (i + 1) →
          line = line')) :
    (k.parse resolver document' source).outcome.features =
        (k.parse resolver document source).outcome.features ∧
      (k.parse resolver document' source).outcome.rejection.map (fun r => (r.kindName, r.line?)) =
        (k.parse resolver document source).outcome.rejection.map
          (fun r => (r.kindName, r.line?)) := by
  have hsame : (k.read document.toLines).SameButReason (k.read document'.toLines) :=
    ReaderState.readAll_of_trim_eq (distinct_of_select hk) hlength hlines
  constructor
  · simp only [parse, Reading.parsing, hsame.features]
  · rw [parse_rejection, parse_rejection, hsame.rejection]

/-- A Spanish conjunction without a text is one only with the blank at its end: the document is
rejected for the same line, and for another reason. -/
theorem KeywordTable.parse_reindent_spanish :
    let k := ofEntry "es" Dataset.spanish
    let document : Source := .lines
      ["Necesidad del negocio: a", "  Escenario: b", "Dado c", " \"\"\"", "  d ", " \"\"\"", "Y "]
    let document' : Source := .lines
      ["\tNecesidad del negocio: a ", "Escenario: b", " Dado c  ", " \"\"\"", "  d ", " \"\"\"", "Y"]
    let outcome := (k.parse none document []).outcome
    let outcome' := (k.parse none document' []).outcome
    select Dataset.packaged "es" = .ok k ∧
      (∀ i line line', document.toLines[i]? = some line → document'.toLines[i]? = some line' →
        Text.trim line = Text.trim line' ∧
          (k.docStringOpen document.toLines i ∨ k.docStringOpen document.toLines (i + 1) →
            line = line')) ∧
      outcome.rejection.map (·.reason) = some ("Expected a Given step" : Text) ∧
      outcome'.rejection.map (·.reason) = some ("Expected a When step" : Text) ∧
      outcome'.features = outcome.features ∧
      outcome'.rejection.map (fun r => (r.kindName, r.line?)) =
        outcome.rejection.map (fun r => (r.kindName, r.line?)) := by
  intro k document document' outcome outcome'
  have hselect : select Dataset.packaged "es" = .ok k := by rfl
  have hlines : ∀ i line line', document.toLines[i]? = some line →
      document'.toLines[i]? = some line' → Text.trim line = Text.trim line' ∧
        (k.docStringOpen document.toLines i ∨ k.docStringOpen document.toLines (i + 1) →
          line = line') := by
    intro i line line' hline hline'
    have hi : i < 7 := (List.getElem?_eq_some_iff.mp hline).1
    interval_cases i <;> cases hline <;> cases hline' <;>
      exact ⟨by decide +kernel, by decide +kernel⟩
  have hreason : outcome.rejection.map (·.reason) = some ("Expected a Given step" : Text) := by
    decide +kernel
  have hreason' : outcome'.rejection.map (·.reason) = some ("Expected a When step" : Text) := by
    decide +kernel
  exact ⟨hselect, hlines, hreason, hreason',
    parse_reindent "es" k hselect none [] document document' rfl hlines⟩

end FeatureDocs
