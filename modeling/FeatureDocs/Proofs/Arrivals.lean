import FeatureDocs.Proofs.Alike

/-!
# Where a line leads

The place of the reader behind a line tells what the line was: it continues what was open, or it
begins with a keyword (`ReaderState.arrives`). So a feature is described only below the line that
begins it, and a doc string is open only behind a marker.
-/

namespace FeatureDocs

namespace ReaderState

/-- The place behind a line that was read. -/
inductive Arrives (k : KeywordTable) (s : ReaderState) (line : Text) :
    Option (OpenFeature × Place) → Prop
  /-- A blank line leaves the place as it is. -/
  | blank {c : Option (OpenFeature × Place)} (hc : s.current = c) (hb : Text.isBlank line) :
      Arrives k s line c
  /-- The line begins a feature. -/
  | feature (h : k.Matches (Text.trim line) .feature) (f : OpenFeature) :
      Arrives k s line (some (f, .body))
  /-- The line is one of the description. -/
  | description {f : OpenFeature} (hc : s.current = some (f, .body)) (hblock : ¬ f.hasBlock)
      (h : ¬ k.Opens line) : Arrives k s line (some (f.describe (Text.trim line), .body))
  /-- The line begins a block. -/
  | block {c : Category} (h : k.Matches (Text.trim line) c) (f : OpenFeature) (b : Block) :
      Arrives k s line (some (f, .head b))
  /-- The line is a step. -/
  | step {c : Category} (h : k.Matches (Text.trim line) c) (f : OpenFeature) (b : Block)
      (kind : StepKind) (text : Text) (number : Nat) :
      Arrives k s line (some (f, .step b ⟨kind, text, number, .bare⟩))
  /-- The line belongs to the step before it. -/
  | attachment {f : OpenFeature} {b : Block} {step step' : OpenStep}
      (hc : s.current = some (f, .step b step)) (h : step.offer line = .taken step') :
      Arrives k s line (some (f, .step b step'))
  /-- The line announces examples. -/
  | examples (h : k.Matches (Text.trim line) .examples) (f : OpenFeature) (b : Block) :
      Arrives k s line (some (f, .examples b))
  /-- The line is a row of examples. -/
  | row (h : DataTable.isRow line) (f : OpenFeature) (b : Block) (t : OpenTable) :
      Arrives k s line (some (f, .examplesTable b t))
  /-- The line is blank and ends a table of examples. -/
  | outline (hb : Text.isBlank line) (f : OpenFeature) (b : Block) (t : DataTable) :
      Arrives k s line (some (f.addOutline b t, .body))

section Arrives

variable {k : KeywordTable} {s s₁ s' : ReaderState} {line : Text}

lemma arrives_readFeature (h : s₁.readFeature k line = .ok s') : Arrives k s line s'.current := by
  simp only [ReaderState.readFeature] at h
  split_ifs at h with hf
  cases h
  exact .feature hf _

/-- Where the machine stands behind a line in the body of a feature. -/
lemma arrives_readBody {f : OpenFeature} (hc : ¬ f.hasBlock → s.current = some (f, .body))
    (h : s₁.readBody k f line = .ok s') : Arrives k s line s'.current := by
  simp only [ReaderState.readBody] at h
  split_ifs at h with hf hb hsome ho hs hblock
  · exact arrives_readFeature h
  · cases h
    exact .block hb f _
  · cases h
    exact .block ho f _
  · cases h
    exact .block hs f _
  · cases h
    exact .description (hc hblock) hblock (by simp [KeywordTable.Opens, hf, hb, ho, hs])

lemma arrives_readStep {f : OpenFeature} {b : Block} {kind : StepKind}
    (h : s₁.readStep k f b kind line = .ok s') : Arrives k s line s'.current := by
  simp only [ReaderState.readStep] at h
  split_ifs at h with hstep hconj
  · cases h
    exact .step hstep f b kind _ _
  · cases h
    exact .step hconj f b kind _ _

lemma arrives_readExamples {f : OpenFeature} {b : Block}
    (h : s₁.readExamples k f b line = .ok s') : Arrives k s line s'.current := by
  simp only [ReaderState.readExamples] at h
  split_ifs at h with hexamples
  cases h
  exact .examples hexamples f b

/-- Where the machine stands behind a line that came behind a step. -/
lemma arrives_readAfterStep {f : OpenFeature} {b : Block} {kind : StepKind}
    (h : s₁.readAfterStep k f b kind line = .ok s') : Arrives k s line s'.current := by
  have hbody : ∀ {s'}, s₁.readBody k (f.addBlock b) line = .ok s' → Arrives k s line s'.current :=
    fun h => arrives_readBody (fun hne => absurd (f.hasBlock_addBlock b) hne) h
  simp only [ReaderState.readAfterStep] at h
  split_ifs at h
  · exact arrives_readStep h
  · cases hnext : b.role.next? kind with
    | some kind' =>
      rw [hnext] at h
      exact arrives_readStep h
    | none =>
      rw [hnext] at h
      cases hrole : b.role with
      | background =>
        rw [hrole] at h
        exact hbody h
      | scenario =>
        rw [hrole] at h
        exact hbody h
      | outline =>
        rw [hrole] at h
        exact arrives_readExamples h

/-- A line that is read leads to one of these places. -/
theorem arrives (h : s.read k line = .ok s') : Arrives k s line s'.current := by
  -- by the places that the machine can stand at, in the order of its own match
  rcases hc : s.current with _ | ⟨f, p⟩
  · simp only [ReaderState.read, hc] at h
    split_ifs at h with hb
    · cases h
      exact .blank rfl hb
    · exact arrives_readFeature h
  cases p with
  | body =>
    simp only [ReaderState.read, hc] at h
    split_ifs at h with hb
    · cases h
      exact .blank rfl hb
    · exact arrives_readBody (fun _ => hc) h
  | head b =>
    simp only [ReaderState.read, hc] at h
    split_ifs at h with hb
    · cases h
      exact .blank rfl hb
    · exact arrives_readStep h
  | step b step =>
    simp only [ReaderState.read, hc] at h
    cases hoffer : step.offer line with
    | taken step' =>
      rw [hoffer] at h
      cases h
      exact .attachment hc hoffer
    | refused fault =>
      rw [hoffer] at h
      cases h
    | passed =>
      rw [hoffer] at h
      exact arrives_readAfterStep h
  | examples b =>
    simp only [ReaderState.read, hc] at h
    split_ifs at h with hb hrow
    · cases h
      exact .blank rfl hb
    · cases h
      exact .row hrow f b _
  | examplesTable b t =>
    simp only [ReaderState.read, hc] at h
    split_ifs at h with hb hrow
    · cases h
      exact .outline hb f b _
    · cases hadd : t.addRow (DataTable.cells line) with
      | ok t' =>
        rw [hadd] at h
        cases h
        exact .row hrow f b t'
      | error e =>
        rw [hadd] at h
        cases h
    · exact arrives_readBody (fun hne => absurd (f.hasBlock_addOutline b t.close) hne) h

/-! ### Descriptions -/

/-- The next line may be one of a description only below the line that begins the feature. -/
lemma describing_of_read (h : s.read k line = .ok s') (hd : s'.Describing) :
    k.Matches (Text.trim line) .feature ∨
      s.Describing ∧ (Text.isBlank line ∨ ¬ k.Opens line) := by
  obtain ⟨f, hcurrent, hblock⟩ := hd
  have harrives := arrives h
  rw [hcurrent] at harrives
  cases harrives with
  | blank hc hb => exact .inr ⟨⟨f, hc, hblock⟩, .inl hb⟩
  | feature h => exact .inl h
  | description hc hblock' h => exact .inr ⟨⟨_, hc, hblock'⟩, .inr h⟩
  | outline hb f b t => exact absurd (f.hasBlock_addOutline b t) hblock

end Arrives

end ReaderState

/-! ### Doc strings -/

/-- Of a step without a doc string, a marker opens one. -/
lemma OpenStep.marker_of_taken {s s' : OpenStep} {line : Text} (h : s.offer line = .taken s')
    (hclosed : s.attachment.Closed) :
    s'.attachment.Closed ↔ Text.trim line ≠ docStringMarker := by
  -- only the marker opens a doc string, and it is neither blank nor a row
  have hmarker : ∀ t, s.offerMarker t line = .taken s' →
      (s'.attachment.Closed ↔ Text.trim line ≠ docStringMarker) := by
    intro t ht
    rw [OpenStep.offerMarker] at ht
    split_ifs at ht with hm
    cases ht
    simp [Attachment.Closed, hm]
  have hother : Text.isBlank line ∨ DataTable.isRow line → s'.attachment.Closed →
      (s'.attachment.Closed ↔ Text.trim line ≠ docStringMarker) := by
    intro hline hs'
    refine ⟨fun _ hm => ?_, fun _ => hs'⟩
    rcases hline with hb | hr
    · exact not_isBlank_of_trim_eq_marker hm hb
    · exact not_isRow_of_trim_eq_marker hm hr
  cases ha : s.attachment with
  | docString t indentation body =>
    rw [ha] at hclosed
    exact hclosed.elim
  | bare =>
    simp only [OpenStep.offer, ha] at h
    split_ifs at h with hb hr
    · cases h
      exact hother (.inl hb) hclosed
    · cases h
      exact hother (.inr hr) trivial
    · exact hmarker none h
  | table t =>
    simp only [OpenStep.offer, ha] at h
    split_ifs at h with hb hr
    · cases h
      exact hother (.inl hb) trivial
    · cases hadd : t.addRow (DataTable.cells line) with
      | ok t' =>
        rw [hadd] at h
        cases h
        exact hother (.inr hr) trivial
      | error e =>
        rw [hadd] at h
        cases h
    · exact hmarker _ h
  | afterTable t =>
    simp only [OpenStep.offer, ha] at h
    split_ifs at h with hb
    · cases h
      exact hother (.inl hb) hclosed
    · exact hmarker _ h
  | afterDocString t text =>
    simp only [OpenStep.offer, ha] at h
    split_ifs at h with hb
    cases h
    exact hother (.inl hb) hclosed

/-- In a doc string a step refuses a line or takes it, and a marker ends the doc string. -/
lemma OpenStep.offer_of_open {s : OpenStep} (hopen : ¬ s.attachment.Closed) (line : Text) :
    (∃ fault, s.offer line = .refused fault) ∨
      ∃ s', s.offer line = .taken s' ∧
        (s'.attachment.Closed ↔ Text.trim line = docStringMarker) := by
  cases ha : s.attachment with
  | docString t indentation body =>
    simp only [OpenStep.offer, ha]
    split_ifs with hm
    · exact .inr ⟨_, rfl, by simp [Attachment.Closed, hm]⟩
    · exact .inl ⟨_, rfl⟩
    · exact .inr ⟨_, rfl, by simp [Attachment.Closed, hm]⟩
    · exact .inl ⟨_, rfl⟩
  | _ =>
    rw [ha] at hopen
    exact absurd trivial hopen

namespace ReaderState

section Arrives

variable {k : KeywordTable} {s s' : ReaderState} {line : Text}

/-- A line of a doc string stands in one that is open, or is the marker that opens one. -/
lemma inDocString_or_marker_of_quotes (h : s.Quotes line) :
    s.inDocString ∨ Text.trim line = docStringMarker := by
  obtain ⟨f, b, step, hc, hquotes⟩ := h
  by_cases hclosed : step.attachment.Closed
  · obtain ⟨step', hoffer, hopen⟩ := hquotes.resolve_left fun hopen => hopen hclosed
    right
    by_contra hm
    exact hopen ((step.marker_of_taken hoffer hclosed).mpr hm)
  · left
    simpa using mt (inDocString_step hc).mp hclosed

/-- A line that is no marker opens no doc string. -/
lemma inDocString_of_read (h : s.read k line = .ok s') (hin : s.inDocString = false)
    (hm : Text.trim line ≠ docStringMarker) : s'.inDocString = false := by
  have harrives := arrives h
  generalize hc' : s'.current = c at harrives
  cases harrives with
  | blank hc =>
    rw [inDocString, hc] at hin
    rw [inDocString, hc', hin]
  | attachment hc hoffer =>
    have hclosed := (inDocString_step hc).mp hin
    exact (inDocString_step hc').mpr ((OpenStep.marker_of_taken hoffer hclosed).mpr hm)
  | _ => rw [inDocString, hc']

/-- A marker that is read opens a doc string, where it belongs to no other and begins with no
keyword. -/
lemma inDocString_of_marker (h : s.read k line = .ok s') (hin : s.inDocString = false)
    (hm : Text.trim line = docStringMarker) (ht : ∀ c, ¬ k.Matches (Text.trim line) c)
    (hd : ¬ s.Describing) : s'.inDocString := by
  have harrives := arrives h
  generalize hc' : s'.current = c at harrives
  cases harrives with
  | blank _ hb => exact absurd hb (not_isBlank_of_trim_eq_marker hm)
  | feature h => exact absurd h (ht _)
  | description hc hblock => exact absurd ⟨_, hc, hblock⟩ hd
  | block h => exact absurd h (ht _)
  | step h => exact absurd h (ht _)
  | attachment hc hoffer =>
    have hclosed := (inDocString_step hc).mp hin
    have hopen := mt (OpenStep.marker_of_taken hoffer hclosed).mp (not_not.mpr hm)
    simpa using mt (inDocString_step hc').mp hopen
  | examples h => exact absurd h (ht _)
  | row h => exact absurd h (not_isRow_of_trim_eq_marker hm)
  | outline hb => exact absurd hb (not_isBlank_of_trim_eq_marker hm)

/-- In a doc string a line is read without a look at keywords; it ends the doc string if it is a
marker. -/
lemma read_inDocString (hin : s.inDocString) (k k' : KeywordTable) (line : Text) :
    s.read k line = s.read k' line ∧
      ∀ s', s.read k line = .ok s' →
        ¬ s'.Describing ∧ (s'.inDocString = false ↔ Text.trim line = docStringMarker) := by
  rw [inDocString] at hin
  split at hin
  · rename_i f b step hc
    have hopen : ¬ step.attachment.Closed := by
      intro hclosed
      cases ha : step.attachment <;> simp [Attachment.Closed, ha] at hin hclosed
    simp only [ReaderState.read, hc]
    rcases step.offer_of_open hopen line with ⟨fault, hoffer⟩ | ⟨step', hoffer, hclosed⟩
    · rw [hoffer]
      exact ⟨rfl, fun s' h => by cases h⟩
    · rw [hoffer]
      refine ⟨rfl, fun s' h => ?_⟩
      cases h
      refine ⟨?_, (inDocString_step rfl).trans hclosed⟩
      rintro ⟨f', hbody, -⟩
      cases hbody
  · cases hin

end Arrives

end ReaderState

end FeatureDocs
