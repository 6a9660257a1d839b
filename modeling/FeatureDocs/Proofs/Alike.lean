import FeatureDocs.Proofs.Ends
import FeatureDocs.Proofs.Trim

/-!
# Lines that read alike

Of a line, the reader sees whether it is blank, a row or a marker, what its cells are, which
keywords it begins with, and what is behind the keyword. Where two lines agree in that, with one
table of keywords or with two of them, they do the same (`ReaderState.read_alike`), unless their
texts are taken as they are: in a doc string, and in the description of a feature.
-/

namespace FeatureDocs

/-- Two lines that look the same to the reader, each with keywords of its own. -/
structure Alike (k k' : KeywordTable) (line line' : Text) : Prop where
  blank : Text.isBlank line = Text.isBlank line'
  row : DataTable.isRow line = DataTable.isRow line'
  cells : DataTable.isRow line → DataTable.cells line = DataTable.cells line'
  marker : Text.trim line = docStringMarker ↔ Text.trim line' = docStringMarker
  feature : k.Matches line .feature ↔ k'.Matches line' .feature
  trimmed : ∀ c, k.Matches (Text.trim line) c ↔ k'.Matches (Text.trim line') c
  strip : ∀ c, k.strip (Text.trim line) c = k'.strip (Text.trim line') c

/-- Between two blocks the line begins the next feature, as it stands, or a block, when trimmed. -/
def KeywordTable.Opens (k : KeywordTable) (line : Text) : Prop :=
  k.Matches line .feature ∨ k.Matches (Text.trim line) .background ∨
    k.Matches (Text.trim line) .outline ∨ k.Matches (Text.trim line) .scenario

/-- A line belongs to an open step as one of its doc string: it opens it, or stands in it. -/
def OpenStep.Quotes (s : OpenStep) (line : Text) : Prop :=
  ¬ s.attachment.Closed ∨ ∃ s', s.offer line = .taken s' ∧ ¬ s'.attachment.Closed

variable {k k' : KeywordTable} {line line' : Text}

/-- A step does the same with both lines, if its doc string has not to be told from them. -/
lemma OpenStep.offer_alike (h : Alike k k' line line') (s : OpenStep)
    (hquotes : s.Quotes line → line = line') : s.offer line = s.offer line' := by
  -- a line that opens a doc string is the same in both, since its indentation counts
  have hmarker : ∀ t, s.offer line = s.offerMarker t line →
      s.offerMarker t line = s.offerMarker t line' := by
    intro t hoffer
    by_cases hm : Text.trim line = docStringMarker
    · have htaken : s.offer line = .taken
          { s with attachment := .docString t (line.takeWhile Text.isBlankChar) [] } := by
        rw [hoffer, OpenStep.offerMarker, if_pos hm]
      rw [hquotes (.inr ⟨_, htaken, fun hclosed => hclosed⟩)]
    · have hm' := mt h.marker.mpr hm
      rw [OpenStep.offerMarker, OpenStep.offerMarker, if_neg hm, if_neg hm']
  cases ha : s.attachment with
  | docString t indentation body =>
    rw [hquotes (.inl (by simp [Attachment.Closed, ha]))]
  | bare =>
    simp only [OpenStep.offer, ha] at hmarker ⊢
    rw [← h.blank, ← h.row]
    split_ifs with hb hr
    · rfl
    · rw [h.cells hr]
    · exact hmarker none (by rw [if_neg hb, if_neg hr])
  | table t =>
    simp only [OpenStep.offer, ha] at hmarker ⊢
    rw [← h.blank, ← h.row]
    split_ifs with hb hr
    · rfl
    · rw [h.cells hr]
    · exact hmarker (some t.close) (by rw [if_neg hb, if_neg hr])
  | afterTable t =>
    simp only [OpenStep.offer, ha] at hmarker ⊢
    rw [← h.blank]
    split_ifs with hb
    · rfl
    · exact hmarker (some t) (by rw [if_neg hb])
  | afterDocString t text =>
    simp only [OpenStep.offer, ha, h.blank]

@[simp] lemma OpenFeature.hasBlock_addBlock (f : OpenFeature) (b : Block) :
    (f.addBlock b).hasBlock := by
  cases hrole : b.role <;> simp [OpenFeature.hasBlock, OpenFeature.addBlock, hrole]

@[simp] lemma OpenFeature.hasBlock_addOutline (f : OpenFeature) (b : Block) (t : DataTable) :
    (f.addOutline b t).hasBlock := by
  simp [OpenFeature.hasBlock, OpenFeature.addOutline]

namespace ReaderState

variable (s : ReaderState)

/-- The next line may be one of the description of a feature. -/
def Describing : Prop := ∃ f, s.current = some (f, .body) ∧ ¬ f.hasBlock

/-- The next line belongs to a doc string. -/
def Quotes (line : Text) : Prop :=
  ∃ f b step, s.current = some (f, .step b step) ∧ step.Quotes line

section Alike

variable (h : Alike k k' line line')
include h

lemma readFeature_alike : s.readFeature k line = s.readFeature k' line' := by
  simp only [ReaderState.readFeature, h.trimmed, h.strip]

/-- Lines that are alike are read alike in the body of a feature, where a description line must also
have the same text. -/
lemma readBody_alike (f : OpenFeature)
    (htext : ¬ f.hasBlock → ¬ k.Opens line → Text.trim line = Text.trim line') :
    s.readBody k f line = s.readBody k' f line' := by
  simp only [KeywordTable.Opens, h.feature, h.trimmed] at htext
  simp only [ReaderState.readBody, h.feature, h.trimmed, h.strip,
    (s.complete f).readFeature_alike h]
  split_ifs with hf hb _ ho hs hblock
  any_goals rfl
  rw [htext (by simpa using hblock) (by simp [hf, hb, ho, hs])]

lemma readStep_alike (f : OpenFeature) (b : Block) (kind : StepKind) :
    s.readStep k f b kind line = s.readStep k' f b kind line' := by
  simp only [ReaderState.readStep, h.trimmed, h.strip]

lemma readExamples_alike (f : OpenFeature) (b : Block) :
    s.readExamples k f b line = s.readExamples k' f b line' := by
  simp only [ReaderState.readExamples, h.trimmed]

/-- Lines that are alike are read alike behind a step, where they must also agree on conjunctions.
-/
lemma readAfterStep_alike (hconj : k.Matches line .conjunction ↔ k'.Matches line' .conjunction)
    (f : OpenFeature) (b : Block) (kind : StepKind) :
    s.readAfterStep k f b kind line = s.readAfterStep k' f b kind line' := by
  have hbody := s.readBody_alike h (f.addBlock b) (fun hne => absurd (f.hasBlock_addBlock b) hne)
  simp only [ReaderState.readAfterStep, hconj, s.readStep_alike h, s.readExamples_alike h, hbody]

/-- Lines that look the same do the same. -/
lemma read_alike
    (hconj : (∃ f b step, s.current = some (f, .step b step)) →
      (k.Matches line .conjunction ↔ k'.Matches line' .conjunction))
    (htext : s.Describing → ¬ k.Opens line → Text.trim line = Text.trim line')
    (hquotes : s.Quotes line → line = line') : s.read k line = s.read k' line' := by
  rcases hc : s.current with _ | ⟨f, p⟩
  · simp only [ReaderState.read, hc, h.blank, readFeature_alike _ h]
  cases p with
  | body =>
    have hbody := s.advance.readBody_alike h f fun hblock => htext ⟨f, hc, hblock⟩
    simp only [ReaderState.read, hc, h.blank, hbody]
  | head b => simp only [ReaderState.read, hc, h.blank, readStep_alike _ h]
  | step b step =>
    have hoffer := step.offer_alike h fun hq => hquotes ⟨f, b, step, hc, hq⟩
    have hafter := s.advance.readAfterStep_alike h (hconj ⟨f, b, step, hc⟩) f
    simp only [ReaderState.read, hc, hoffer, hafter]
  | examples b =>
    simp only [ReaderState.read, hc, h.blank, ← h.row]
    split_ifs with hb hr
    · rfl
    · rw [h.cells hr]
    · rfl
  | examplesTable b t =>
    have hbody := s.advance.readBody_alike h (f.addOutline b t.close)
      fun hne => absurd (f.hasBlock_addOutline b t.close) hne
    simp only [ReaderState.read, hc, h.blank, ← h.row, hbody]
    split_ifs with hb hr
    · rfl
    · rw [h.cells hr]
    · rfl

end Alike

/-! ### Lines that begin with no keyword -/

section Unclaimed

variable {s} (hf : ¬ k.Matches line .feature) (ht : ∀ c, ¬ k.Matches (Text.trim line) c)
include ht

lemma readStep_of_unclaimed (f : OpenFeature) (b : Block) (kind : StepKind) :
    s.readStep k f b kind line = .error (s.reject (.expectedStep kind)) := by
  simp only [ReaderState.readStep, ht, if_false]

include hf

lemma readBody_of_unclaimed {f : OpenFeature} (hblock : f.hasBlock) :
    s.readBody k f line = .error (s.reject .unexpectedLine) := by
  simp only [ReaderState.readBody, hf, ht, if_false, hblock, if_true]

/-- Behind a step such a line is rejected, whether it is looked at as a conjunction or not. -/
lemma readAfterStep_of_unclaimed (f : OpenFeature) (b : Block) (kind : StepKind) :
    ∃ fault, s.readAfterStep k f b kind line = .error (s.reject fault) := by
  simp only [ReaderState.readAfterStep, readStep_of_unclaimed ht,
    readBody_of_unclaimed hf ht (f.hasBlock_addBlock b), ReaderState.readExamples, ht, if_false]
  split_ifs
  · exact ⟨_, rfl⟩
  · cases b.role.next? kind with
    | some kind' => exact ⟨_, rfl⟩
    | none => cases b.role <;> exact ⟨_, rfl⟩

end Unclaimed

end ReaderState

end FeatureDocs
