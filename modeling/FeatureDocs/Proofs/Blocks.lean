import FeatureDocs.Proofs.Sections

/-!
# Blocks in a descent

The sections of a background and of a scenario, and the examples of an outline. Behind a block the
reader of lines is between two blocks again, whichever way the block has ended.
-/

namespace FeatureDocs

open Grammar

/-- Only a background has no section behind its first one. -/
lemma Role.next?_of_ne {role : Role} (h : role ≠ .background) :
    role.next? .context = some .action ∧ role.next? .action = some .outcome := by
  cases role with
  | background => exact absurd rfl h
  | scenario => exact ⟨rfl, rfl⟩
  | outline => exact ⟨rfl, rfl⟩

variable {k : KeywordTable} {kind : StepKind}

/-! ### Where sections begin and end -/

lemma Grammar.SectionLines.ne_nil {input rest : List Line} {new : List Step}
    (h : SectionLines k kind input new rest) : input ≠ [] := by
  cases h with
  | last hs _ => cases hs; simp
  | more hs _ _ => cases hs; simp

/-- No blank line is left in front of what follows a section. -/
lemma Grammar.SectionLines.head {input rest : List Line} {new : List Step}
    (h : SectionLines k kind input new rest) : ∀ l ∈ rest.head?, ¬ Text.isBlank l.text := by
  induction h with
  | last hs _ =>
    cases hs with
    | step _ _ _ hgap => exact hgap.head
  | more _ _ _ ih => exact ih

/-- A scenario ends before a line that is not blank. -/
lemma Grammar.Sections.head {input rest : List Line} {new : List Step}
    (h : Sections k input new rest) : ∀ l ∈ rest.head?, ¬ Text.isBlank l.text := by
  cases h with
  | sections _ _ _ ho => exact ho.head

namespace Descent

variable {s : State} {text : Text} {rest : List Text} {fs : List Feature} {f : OpenFeature}
  {b : Block}

/-- No blank line is read where there is none. -/
lemma skipBlanks_stay (hb : ∀ l ∈ s.texts.head?, ¬ Text.isBlank l) :
    skipBlanks s = some (.ok (), s) := by
  rw [skipBlanks_eq]
  cases ht : s.texts with
  | nil =>
    rw [bind_ok (atEnd_nil ht)]
    rfl
  | cons text rest =>
    have hblank : ¬ Text.isBlank text := hb text (by simp [ht])
    rw [bind_ok (atEnd_cons ht)]
    show (peek >>= _ : Descent Unit) s = _
    rw [bind_ok (peek_apply ht), if_neg hblank]
    rfl

/-- Behind a section other than the last a line is left, and it is no conjunction. -/
lemma ReadSection.exists_cons {new : List Step} {s' : State}
    (h : ReadSection k fs f b kind s new s') (hk : kind ≠ .outcome) :
    ∃ text rest, s'.texts = text :: rest ∧ ¬ Text.isBlank text ∧
      ¬ k.Matches text .conjunction := by
  obtain ⟨text, rest, ht⟩ := List.exists_cons_of_ne_nil (h.more hk)
  refine ⟨text, rest, ht, ?_, ?_⟩
  · exact h.notBlank text (by simp [ht])
  · exact h.notConjunction text (by simp [ht])

/-! ### Backgrounds -/

/-- The descent and the machine read the steps of a background alike. -/
lemma background_reads (fs : List Feature) (f : OpenFeature) (hrole : b.role = .background)
    (s : State) :
    Reads (background k) s
      (fun new s' => (∃ start, Gap s.lines start ∧ SectionLines k .context start new s'.lines) ∧
        s'.texts ≠ [] ∧
        s.reading k fs (some (f, .head b)) =
          s'.reading k fs (some (f.addBlock (b.addSteps new), .body)))
      fun r => s.reading k fs (some (f, .head b)) = rejectedIn fs f r := by
  rw [background]
  refine (skipBlanks_reads (skipsBlanks_head k f b) fs s).bind (fun _ h => h.elim)
    fun _ s₁ _ ⟨hgap, hr₁⟩ => ?_
  rw [hr₁]
  refine needLine_reads (fun hnil => ?_) fun text rest ht => ?_
  · rw [State.reading_nil hnil]
    rfl
  · have hb : ∀ l ∈ s₁.texts.head?, ¬ Text.isBlank l := State.forall_head_iff.mp hgap.head
    have hb : ¬ Text.isBlank text := hb text (by simp [ht])
    have hne : s₁.texts ≠ [] := by simp [ht]
    rw [reading_head ht hb]
    refine (steps_reads fs f b .context [] hne).mono ?_ fun _ hr => hr
    rintro _ s₂ - ⟨new, rfl, h⟩
    obtain ⟨text', rest', ht', hb', hc'⟩ := h.exists_cons (by decide)
    refine ⟨⟨_, hgap, h.derived⟩, h.more (by decide), ?_⟩
    rw [h.same]
    exact readingAfter_background ht' hb' hc' hrole

lemma background_apply {start rest : List Line} {new : List Step} (hgap : Gap s.lines start)
    (h : SectionLines k .context start new rest) (hrest : rest ≠ []) :
    ∃ s', s'.lines = rest ∧ background k s = some (.ok new, s') := by
  obtain ⟨s₁, rfl, hx₁⟩ := skipBlanks_apply hgap
  obtain ⟨s₂, rfl, hx₂⟩ := steps_apply h rfl (fun _ => hrest) []
  have hne : s₁.lines ≠ [] := h.ne_nil
  obtain ⟨l, _, hl⟩ := List.exists_cons_of_ne_nil hne
  obtain ⟨_, ht, -, -⟩ := State.of_lines_eq_cons hl
  refine ⟨s₂, rfl, ?_⟩
  rw [background, bind_ok hx₁, bind_ok (needLine_cons ht), hx₂]
  rfl

/-! ### Scenarios -/

/-- The descent and the machine read the three sections of a scenario alike. -/
lemma sections_reads (fs : List Feature) (f : OpenFeature) (hrole : b.role ≠ .background)
    (s : State) :
    Reads (sections k) s
      (fun new s' => Sections k s.lines new s'.lines ∧
        (∀ l ∈ s'.texts.head?, ¬ Text.isBlank l) ∧
        (∀ l ∈ s'.texts.head?, ¬ k.Matches l .conjunction) ∧
        s.reading k fs (some (f, .head b)) = s'.readingAfter k fs f (b.addSteps new) .outcome)
      fun r => s.reading k fs (some (f, .head b)) = rejectedIn fs f r := by
  obtain ⟨hnext, hnext'⟩ := Role.next?_of_ne hrole
  rw [sections]
  refine (skipBlanks_reads (skipsBlanks_head k f b) fs s).bind (fun _ h => h.elim)
    fun _ s₁ _ ⟨hgap, hr₁⟩ => ?_
  rw [hr₁]
  refine needLine_reads (fun hnil => ?_) fun text rest ht => ?_
  · rw [State.reading_nil hnil]
    rfl
  · have hb : ∀ l ∈ s₁.texts.head?, ¬ Text.isBlank l := State.forall_head_iff.mp hgap.head
    have hb : ¬ Text.isBlank text := hb text (by simp [ht])
    have hne : s₁.texts ≠ [] := by simp [ht]
    rw [reading_head ht hb]
    refine (steps_reads fs f b .context [] hne).bind (fun _ hr => hr) ?_
    rintro context s₂ - ⟨_, rfl, hc⟩
    -- each section but the last leaves a line, in which the next section begins
    obtain ⟨text₂, rest₂, ht₂, -, hc₂⟩ := hc.exists_cons (by decide)
    rw [hc.same, readingAfter_next (b := b.addSteps context) ht₂ hc₂ hnext]
    refine (steps_reads fs f _ .action _ (hc.more (by decide))).bind (fun _ hr => hr) ?_
    rintro _ s₃ - ⟨action, rfl, ha⟩
    obtain ⟨text₃, rest₃, ht₃, -, hc₃⟩ := ha.exists_cons (by decide)
    rw [ha.same, readingAfter_next (b := (b.addSteps context).addSteps action) ht₃ hc₃ hnext']
    refine (steps_reads fs f _ .outcome _ (ha.more (by decide))).mono ?_ fun _ hr => hr
    rintro _ s₄ - ⟨outcome, rfl, ho⟩
    refine ⟨.sections hgap hc.derived ha.derived ho.derived, ho.notBlank, ho.notConjunction, ?_⟩
    rw [ho.same, Block.addSteps_addSteps, Block.addSteps_addSteps, List.append_assoc]

lemma sections_apply {new : List Step} {rest : List Line} (h : Sections k s.lines new rest) :
    ∃ s', s'.lines = rest ∧ sections k s = some (.ok new, s') := by
  cases h with
  | @sections _ _ _ _ context action outcome hgap hc ha ho =>
    obtain ⟨s₁, rfl, hx₁⟩ := skipBlanks_apply hgap
    obtain ⟨l, _, hl⟩ := List.exists_cons_of_ne_nil hc.ne_nil
    obtain ⟨_, ht, -, -⟩ := State.of_lines_eq_cons hl
    obtain ⟨s₂, rfl, hx₂⟩ := steps_apply hc rfl (fun _ => ha.ne_nil) []
    obtain ⟨s₃, rfl, hx₃⟩ := steps_apply ha rfl (fun _ => ho.ne_nil) ([] ++ context)
    obtain ⟨s₄, rfl, hx₄⟩ :=
      steps_apply ho rfl (fun h => absurd rfl h) ([] ++ context ++ action)
    refine ⟨s₄, rfl, ?_⟩
    rw [sections, bind_ok hx₁, bind_ok (needLine_cons ht), bind_ok hx₂, bind_ok hx₃, hx₄]
    rfl

/-! ### Examples -/

/-- The line below the head of the examples has to be a row. -/
lemma reading_examples_error (hb : ∀ l ∈ s.texts.head?, ¬ Text.isBlank l)
    (hrow : ∀ l ∈ s.texts.head?, ¬ DataTable.isRow l) :
    s.reading k fs (some (f, .examples b)) =
      rejectedIn fs f (.fault .examplesWithoutTable s.position) := by
  cases ht : s.texts with
  | nil =>
    rw [State.reading_nil ht]
    rfl
  | cons text rest =>
    have hb : ¬ Text.isBlank text := hb text (by simp [ht])
    have hrow : ¬ DataTable.isRow text := hrow text (by simp [ht])
    apply State.reading_error ht
    simp [ReaderState.read, ReaderState.reject, rejectedIn, hb, hrow]

/-- The table behind the line that begins the examples. -/
lemma examplesTable_reads (fs : List Feature) (f : OpenFeature) (ht : s.texts = text :: rest)
    (hm : k.Matches (Text.trim text) .examples) :
    Reads (do
      match ← table? with
      | some t => return t
      | none => reject .examplesWithoutTable)
      s.step
      (fun t s' => Examples k s.lines t s'.lines ∧
        s.step.reading k fs (some (f, .examples b)) =
          s'.reading k fs (some (f.addOutline b t, .body)))
      fun r => s.step.reading k fs (some (f, .examples b)) = rejectedIn fs f r := by
  refine (table?_reads (tableAt_examples k f b) fs s.step).bind (fun _ hr => hr) ?_
  rintro (_ | t) s₁ - ⟨htable, hr₁⟩
  · apply Reads.reject
    rw [hr₁]
    cases htable with
    | absent hgap hrow =>
      exact reading_examples_error (State.forall_head_iff.mp hgap.head)
        (State.forall_head_iff.mp hrow)
  · obtain ⟨t', rfl, hr₁⟩ := hr₁
    refine .pure ⟨?_, ?_⟩
    · rw [State.lines_step ht]
      cases htable with
      | present hgap htable => exact .examples hm hgap htable
    · rw [hr₁]
      exact readAll_examplesTable t' (State.forall_head_iff.mp htable.head_table)

/-- The descent and the machine read the examples of an outline alike. -/
lemma examples_reads (fs : List Feature) (f : OpenFeature) (hrole : b.role = .outline)
    (hb : ∀ l ∈ s.texts.head?, ¬ Text.isBlank l)
    (hc : ∀ l ∈ s.texts.head?, ¬ k.Matches l .conjunction) :
    Reads (examples k) s
      (fun t s' => Examples k s.lines t s'.lines ∧
        s.readingAfter k fs f b .outcome = s'.reading k fs (some (f.addOutline b t, .body)))
      fun r => s.readingAfter k fs f b .outcome = rejectedIn fs f r := by
  rw [examples]
  refine .after (skipBlanks_stay hb) (.refl s) (needLine_reads (fun hnil => ?_) ?_)
  · rw [State.readingAfter, hnil]
    simp [hrole]
  · intro text rest ht
    have hc' : ¬ k.Matches text .conjunction := hc text (by simp [ht])
    -- an outcome is the last step of an outline, so the machine goes for the examples too
    have hstart : s.readingAfter k fs f b .outcome = readRest k
        (ReaderState.readExamples k ⟨s.position + 1, fs, some (f, .body)⟩ f b text) rest := by
      rw [State.readingAfter, ht]
      simp only [ReaderState.readAfterStep, hc', if_false, hrole, Role.next?]
    rw [hstart]
    apply Reads.command ht
    by_cases hm : k.Matches (Text.trim text) .examples
    · rw [if_pos hm]
      have hread : ReaderState.readExamples k ⟨s.position + 1, fs, some (f, .body)⟩ f b text =
          .ok ⟨s.position + 1, fs, some (f, .examples b)⟩ := by
        rw [ReaderState.readExamples, if_pos hm]
        rfl
      rw [hread, readRest_ok, ← State.position_step ht, ← State.texts_step ht]
      exact examplesTable_reads fs f ht hm
    · rw [if_neg hm]
      apply Reads.reject
      rw [ReaderState.readExamples, if_neg hm, State.position_step ht]
      rfl

/-- The descent reads examples that the grammar derives. -/
lemma examples_apply {t : DataTable} {rest : List Line}
    (hb : ∀ l ∈ s.texts.head?, ¬ Text.isBlank l) (h : Examples k s.lines t rest) :
    ∃ s', s'.lines = rest ∧ examples k s = some (.ok t, s') := by
  generalize hs : s.lines = input at h
  cases h with
  | @examples l input start _ _ hl hgap htable =>
    obtain ⟨more, ht, -, rfl⟩ := State.of_lines_eq_cons hs
    obtain ⟨s₁, rfl, hx⟩ := table?_apply (.present hgap htable)
    refine ⟨s₁, rfl, ?_⟩
    rw [examples, bind_ok (skipBlanks_stay hb), bind_ok (needLine_cons ht),
      bind_ok (command_apply ht), if_pos hl, bind_ok hx]
    rfl

end Descent

end FeatureDocs
