import FeatureDocs.Proofs.Attachments

/-!
# Steps and sections in a descent

The reader of lines closes a step when it meets the next line, and the descent looks ahead to that
line: so a section is compared with `readingStep`, where its first line has to be a step, and with
`readingAfter`, where its last step is closed and the next line is looked at from outside.
-/

namespace FeatureDocs

open Grammar

/-- The block with some more steps. -/
def Block.addSteps (b : Block) (steps : List Step) : Block :=
  { b with steps := steps.reverse ++ b.steps }

@[simp] lemma Block.addSteps_addStep (b : Block) (s : Step) (steps : List Step) :
    (b.addStep s).addSteps steps = b.addSteps (s :: steps) := by
  simp [Block.addSteps, Block.addStep]

@[simp] lemma Block.addSteps_addSteps (b : Block) (steps steps' : List Step) :
    (b.addSteps steps).addSteps steps' = b.addSteps (steps ++ steps') := by
  simp [Block.addSteps]

namespace Descent

variable (k : KeywordTable)

namespace State

/-- What the reader of lines makes of the lines that are left, when the next one has to be a step of
a section. -/
def readingStep (s : State) (fs : List Feature) (f : OpenFeature) (b : Block) (kind : StepKind) :
    Reading :=
  match s.texts with
  | [] => rejectedIn fs f .endOfInput
  | text :: rest =>
    readRest k (ReaderState.readStep k ⟨s.position + 1, fs, some (f, .body)⟩ f b kind text) rest

/-- What the reader of lines makes of the lines that are left, when the last step of a block that
was read is closed. -/
def readingAfter (s : State) (fs : List Feature) (f : OpenFeature) (b : Block) (kind : StepKind) :
    Reading :=
  match s.texts with
  | [] =>
    if kind = .outcome ∧ b.role = .scenario then
      { features := ((f.addBlock b).close :: fs).reverse }
    else rejectedIn fs f .endOfInput
  | text :: rest =>
    readRest k (ReaderState.readAfterStep k ⟨s.position + 1, fs, some (f, .body)⟩ f b kind text)
      rest

end State

variable {k} {s : State} {text : Text} {rest : List Text} {fs : List Feature} {f : OpenFeature}
  {b : Block} {kind : StepKind}

/-! ### The text of a step -/

/-- The text of a step is found just if the grammar allows it there. -/
lemma stepText?_eq_some_iff {line : Text} :
    stepText? k kind (Text.trim line) = some text ↔ StepText k kind line text := by
  unfold stepText?
  constructor
  · intro h
    split_ifs at h with hp hc
    · cases h
      exact .primary hp
    · cases h
      exact .conjunction hp hc
  · intro h
    cases h with
    | primary hp => rw [if_pos hp]
    | conjunction hp hc => rw [if_neg hp, if_pos hc]

/-- A line with a step of its section opens the step. -/
lemma readStep_of_stepText {line : Text} {n : Nat} {p : Place} (h : StepText k kind line text) :
    ReaderState.readStep k ⟨n, fs, some (f, p)⟩ f b kind line =
      .ok ⟨n, fs, some (f, .step b ⟨kind, text, n, attached none none⟩)⟩ := by
  cases h with
  | primary hp => simp [ReaderState.readStep, ReaderState.goto, attached, hp]
  | conjunction hp hc => simp [ReaderState.readStep, ReaderState.goto, attached, hp, hc]

/-- A line without one is rejected. -/
lemma readStep_of_stepText?_none {line : Text} {n : Nat} {p : Place}
    (h : stepText? k kind (Text.trim line) = none) :
    ReaderState.readStep k ⟨n, fs, some (f, p)⟩ f b kind line =
      .error (rejectedIn fs f (.fault (.expectedStep kind) n)) := by
  unfold stepText? at h
  split_ifs at h with hp hc
  simp [ReaderState.readStep, ReaderState.reject, rejectedIn, hp, hc]

/-! ### Between two steps -/

/-- A step is closed by a line that is neither blank nor attached to it. -/
lemma reading_step {name : Text} {number : Nat} {t : Option DataTable} {d : Option Text}
    (hb : ∀ l ∈ s.texts.head?, ¬ Text.isBlank l)
    (hd : d = none → ∀ l ∈ s.texts.head?, ¬ IsMarker l)
    (ht : t = none → d = none → ∀ l ∈ s.texts.head?, ¬ DataTable.isRow l) :
    s.reading k fs (some (f, .step b ⟨kind, name, number, attached t d⟩)) =
      s.readingAfter k fs f
        (b.addStep { kind, text := name, table := t, docString := d, line := number }) kind := by
  rw [State.readingAfter]
  cases hs : s.texts with
  | nil =>
    rw [State.reading_nil hs]
    cases t <;> cases d <;> cases kind <;> cases hr : b.role <;>
      simp [ReaderState.finish, attached, ReaderState.endTooEarly, ReaderState.endBehind,
        rejectedIn, OpenStep.close, Block.addStep, hr]
  | cons l rest =>
    have hl : ¬ Text.isBlank l := hb l (by simp [hs])
    -- nothing more can be attached: the line is not blank, no marker and no row that is still due
    have hpassed : OpenStep.offer ⟨kind, name, number, attached t d⟩ l = .passed := by
      cases d with
      | some d => cases t <;> simp [OpenStep.offer, attached, hl]
      | none =>
        have hm : ¬ Text.trim l = docStringMarker := hd rfl l (by simp [hs])
        cases t with
        | some t => simp [OpenStep.offer, OpenStep.offerMarker, attached, hl, hm]
        | none =>
          have hrow := ht rfl rfl l (by simp [hs])
          simp [OpenStep.offer, OpenStep.offerMarker, attached, hl, hm, hrow]
    rw [State.reading_cons hs]
    simp only [ReaderState.read, ReaderState.advance, hpassed, OpenStep.close_attached]
    rw [readAfterStep_place _ .body]

/-- A conjunction goes on with the section. -/
lemma readingAfter_conjunction (ht : s.texts = text :: rest) (h : k.Matches text .conjunction) :
    s.readingAfter k fs f b kind = s.readingStep k fs f b kind := by
  rw [State.readingAfter, State.readingStep, ht]
  simp only [ReaderState.readAfterStep, h, if_true]

/-- Any other line is looked at from the next section. -/
lemma readingAfter_next {kind' : StepKind} (ht : s.texts = text :: rest)
    (h : ¬ k.Matches text .conjunction) (hnext : b.role.next? kind = some kind') :
    s.readingAfter k fs f b kind = s.readingStep k fs f b kind' := by
  rw [State.readingAfter, State.readingStep, ht]
  simp only [ReaderState.readAfterStep, h, if_false, hnext]

/-- Behind the last section of a background the feature goes on. -/
lemma readingAfter_background (ht : s.texts = text :: rest) (hb : ¬ Text.isBlank text)
    (h : ¬ k.Matches text .conjunction) (hrole : b.role = .background) :
    s.readingAfter k fs f b kind = s.reading k fs (some (f.addBlock b, .body)) := by
  have hname : f.name = (f.addBlock b).name := by rw [OpenFeature.addBlock, hrole]
  rw [State.readingAfter, ht, State.reading_cons ht]
  simp only [ReaderState.readAfterStep, h, if_false, hrole, Role.next?, ReaderState.read, hb,
    ReaderState.advance, Bool.false_eq_true]
  rw [readBody_place hname _ .body .body]

/-- Behind the last section of a scenario the feature goes on. -/
lemma readingAfter_scenario (hb : ∀ l ∈ s.texts.head?, ¬ Text.isBlank l)
    (h : ∀ l ∈ s.texts.head?, ¬ k.Matches l .conjunction) (hrole : b.role = .scenario) :
    s.readingAfter k fs f b .outcome = s.reading k fs (some (f.addBlock b, .body)) := by
  have hname : f.name = (f.addBlock b).name := by rw [OpenFeature.addBlock, hrole]
  rw [State.readingAfter]
  cases ht : s.texts with
  | nil =>
    rw [State.reading_nil ht]
    simp [hrole, ReaderState.finish, ReaderState.endBehind]
  | cons text rest =>
    have hb : ¬ Text.isBlank text := hb text (by simp [ht])
    have h : ¬ k.Matches text .conjunction := h text (by simp [ht])
    rw [State.reading_cons ht]
    simp only [ReaderState.readAfterStep, h, if_false, hrole, Role.next?, ReaderState.read, hb,
      ReaderState.advance, Bool.false_eq_true]
    rw [readBody_place hname _ .body .body]

/-- A block begins with a step. -/
lemma reading_head (ht : s.texts = text :: rest) (hb : ¬ Text.isBlank text) :
    s.reading k fs (some (f, .head b)) = s.readingStep k fs f b .context := by
  rw [State.reading_cons ht, State.readingStep, ht]
  simp only [ReaderState.read, hb, ReaderState.advance, Bool.false_eq_true, if_false]
  rw [readStep_place _ .body]

/-! ### Steps -/

/-- Behind the first line of a step nothing is attached to it yet. -/
lemma readingStep_of_stepText {name : Text} (ht : s.texts = text :: rest)
    (h : StepText k kind text name) :
    s.readingStep k fs f b kind = s.step.reading k fs
      (some (f, .step b ⟨kind, name, s.step.position, attached none none⟩)) := by
  rw [State.readingStep, ht]
  simp only [readStep_of_stepText h, readRest_ok]
  rw [State.reading, State.position_step ht, State.texts_step ht]

/-- Behind the table of a step, the step is as good as closed. -/
lemma stepTable_reads (fs : List Feature) (f : OpenFeature) (b : Block) (kind : StepKind)
    (name : Text) (number : Nat) (s : State) :
    Reads table? s
      (fun t s' => Slot Table (DataTable.isRow ·) s.lines t s'.lines ∧
        s.reading k fs (some (f, .step b ⟨kind, name, number, attached none none⟩)) =
          s'.reading k fs (some (f, .step b ⟨kind, name, number, attached t none⟩)))
      fun r => s.reading k fs (some (f, .step b ⟨kind, name, number, attached none none⟩)) =
        rejectedIn fs f r := by
  refine (table?_reads (tableAt_step k f b kind name number) fs s).mono ?_ fun _ hr => hr
  rintro (_ | t) s' - ⟨htable, hr⟩
  · exact ⟨htable, hr⟩
  · obtain ⟨t', rfl, hr⟩ := hr
    refine ⟨htable, ?_⟩
    rw [hr]
    exact readAll_table t' (State.forall_head_iff.mp htable.head_table)

/-- Behind a step with all that is attached to it, the step is closed: a slot that is empty is not
followed by what it is for. -/
lemma reading_closed {s₁ s₂ s₃ : State} {name : Text} {number : Nat} {t : Option DataTable}
    {d : Option Text} (htable : Slot Table (DataTable.isRow ·) s.lines t s₁.lines)
    (hdoc : Slot DocString IsMarker s₁.lines d s₂.lines) (hgap : Gap s₂.lines s₃.lines) :
    s₃.reading k fs (some (f, .step b ⟨kind, name, number, attached t d⟩)) =
      s₃.readingAfter k fs f
        (b.addStep { kind, text := name, table := t, docString := d, line := number }) kind := by
  have hmid : d = none → s₂.lines = s₃.lines := by
    rintro rfl
    cases hdoc with
    | absent hgap' _ => exact (Gap.stop hgap'.head).unique hgap
  refine reading_step (State.forall_head_iff.mp hgap.head) ?_ ?_
  · rintro rfl
    refine State.forall_head_iff.mp ?_
    rw [← hmid rfl]
    cases hdoc with
    | absent _ hm => exact hm
  · rintro rfl rfl
    refine State.forall_head_iff.mp ?_
    rw [← hmid rfl]
    cases hdoc with
    | absent hgap' _ =>
      cases htable with
      | absent hgap'' hrow => rwa [← (Gap.stop hgap''.head).unique hgap']

/-- A step is read as the grammar has it, with what is attached to it and the blank lines behind it;
the reader of lines has closed it then. -/
lemma step_reads (fs : List Feature) (f : OpenFeature) (b : Block) (kind : StepKind)
    (ht : s.texts = text :: rest) :
    Reads (step k kind) s
      (fun st s' => StepLines k kind s.lines st s'.lines ∧ s'.texts.length < s.texts.length ∧
        (∀ l ∈ s'.texts.head?, ¬ Text.isBlank l) ∧
        s.readingStep k fs f b kind = s'.readingAfter k fs f (b.addStep st) kind)
      fun r => s.readingStep k fs f b kind = rejectedIn fs f r := by
  rw [step]
  apply Reads.command ht
  cases htext : stepText? k kind (Text.trim text) with
  | none =>
    apply Reads.reject
    rw [State.readingStep, ht]
    simp only [readStep_of_stepText?_none htext, readRest_error, State.position_step ht]
  | some name =>
    have hname := stepText?_eq_some_iff.mp htext
    rw [readingStep_of_stepText ht hname]
    apply Reads.line
    refine ((stepTable_reads fs f b kind name s.step.position s.step).bind (fun _ hr => hr)
      fun t s₁ hs₁ ⟨htable, hr₁⟩ => ?_)
    rw [hr₁]
    refine ((docString?_reads fs s₁).bind (fun _ hr => hr) fun d s₂ hs₂ ⟨hdoc, hr₂⟩ => ?_)
    rw [hr₂]
    refine ((skipBlanks_reads (skipsBlanks_step k f b kind name s.step.position t d) fs s₂).bind
      (fun _ h => h.elim) fun _ s₃ hs₃ ⟨hgap, hr₃⟩ => .pure ⟨?_, ?_, ?_, ?_⟩)
    · rw [State.lines_step ht, ← State.position_step ht]
      exact .step (l := ⟨s.step.position, text⟩) hname htable hdoc hgap
    · have hlen := ((hs₁.trans hs₂).trans hs₃).length_le
      rw [State.texts_step ht] at hlen
      rw [ht, List.length_cons]
      exact Nat.lt_succ_of_le hlen
    · exact State.forall_head_iff.mp hgap.head
    · rw [hr₃]
      exact reading_closed htable hdoc hgap

/-- A step that the grammar derives is read. -/
lemma step_apply {st : Step} {rest : List Line} (h : StepLines k kind s.lines st rest) :
    ∃ s', s'.lines = rest ∧ step k kind s = some (.ok st, s') := by
  generalize hs : s.lines = input at h
  cases h with
  | @step l input a b _ name t d hname htable hdoc hgap =>
    obtain ⟨more, ht, hnumber, rfl⟩ := State.of_lines_eq_cons hs
    obtain ⟨s₁, rfl, hx₁⟩ := table?_apply htable
    obtain ⟨s₂, rfl, hx₂⟩ := docString?_apply hdoc
    obtain ⟨s₃, rfl, hx₃⟩ := skipBlanks_apply hgap
    refine ⟨s₃, rfl, ?_⟩
    rw [step, bind_ok (command_apply ht), stepText?_eq_some_iff.mpr hname]
    show (line >>= _ : Descent Step) s.step = _
    rw [bind_ok line_apply, bind_ok hx₁, bind_ok hx₂, bind_ok hx₃, State.position_step ht, hnumber]
    rfl

/-! ### Sections -/

/-- What is known when the steps of a section were read from one state to another: they are a
section, the last one if no line is left, and the reader of lines sees what follows from behind
them. -/
structure ReadSection (k : KeywordTable) (fs : List Feature) (f : OpenFeature) (b : Block)
    (kind : StepKind) (s : State) (new : List Step) (s' : State) : Prop where
  derived : SectionLines k kind s.lines new s'.lines
  more : kind ≠ .outcome → s'.texts ≠ []
  notBlank : ∀ l ∈ s'.texts.head?, ¬ Text.isBlank l
  notConjunction : ∀ l ∈ s'.texts.head?, ¬ k.Matches l .conjunction
  same : s.readingStep k fs f b kind = s'.readingAfter k fs f (b.addSteps new) kind

/-- The steps of a section are read as the grammar has them, and the reader of lines is behind the
last one. -/
lemma steps_reads (fs : List Feature) (f : OpenFeature) (b : Block) (kind : StepKind)
    (done : List Step) (hne : s.texts ≠ []) :
    Reads (steps k kind done) s
      (fun all s' => ∃ new, all = done ++ new ∧ ReadSection k fs f b kind s new s')
      fun r => s.readingStep k fs f b kind = rejectedIn fs f r := by
  -- on the number of lines that are left, of which each step takes one at least
  induction hn : s.texts.length using Nat.strong_induction_on generalizing s b done with
  | _ n ih =>
    obtain ⟨text, rest, ht⟩ := List.exists_cons_of_ne_nil hne
    rw [steps_eq]
    refine (step_reads fs f b kind ht).bind (fun _ hr => hr) fun st s₁ _ ⟨hst, hlt, hb, hr⟩ => ?_
    -- behind the step: no line is left, or a conjunction follows, or something else
    refine .atEnd (fun hnil => ?_) fun text₁ rest₁ ht₁ => ?_
    · rw [if_pos rfl]
      by_cases hk : kind = .outcome
      · rw [if_pos hk]
        refine .pure ⟨[st], rfl, .last hst ?_, fun h => absurd hk h, hb, by simp [hnil], hr⟩
        simp [State.lines_nil hnil]
      · rw [if_neg hk]
        apply Reads.throw
        rw [hr, State.readingAfter, hnil]
        simp [hk]
    · rw [if_neg Bool.false_ne_true]
      refine .peek ht₁ ?_
      by_cases hc : k.Matches text₁ .conjunction
      · have hne₁ : s₁.texts ≠ [] := by simp [ht₁]
        rw [if_pos hc, hr, readingAfter_conjunction ht₁ hc]
        refine (ih _ (hn ▸ hlt) (b.addStep st) (done ++ [st]) hne₁ rfl).mono ?_ fun _ h => h
        rintro _ s₂ - ⟨new, rfl, h⟩
        refine ⟨st :: new, by simp, ?_, h.more, h.notBlank, h.notConjunction, ?_⟩
        · have hderived := h.derived
          rw [State.lines_step ht₁] at hst hderived
          exact .more hst hc hderived
        · rw [hr, readingAfter_conjunction ht₁ hc, h.same, Block.addSteps_addStep]
      · rw [if_neg hc]
        have hc' : ∀ l ∈ s₁.texts.head?, ¬ k.Matches l .conjunction := by simpa [ht₁] using hc
        refine .pure ⟨[st], rfl, .last hst ?_, fun _ => by simp [ht₁], hb, hc', hr⟩
        exact State.forall_head_iff.mpr hc'

/-- A section that the grammar derives is read. Only behind the last section there need not be
another line. -/
lemma steps_apply {input rest : List Line} {new : List Step} (h : SectionLines k kind input new rest)
    (hs : s.lines = input) (hmore : kind ≠ .outcome → rest ≠ []) (done : List Step) :
    ∃ s', s'.lines = rest ∧ steps k kind done s = some (.ok (done ++ new), s') := by
  induction h generalizing s done with
  | @last input rest st hst hc =>
    subst hs
    obtain ⟨s₁, rfl, hx⟩ := step_apply hst
    refine ⟨s₁, rfl, ?_⟩
    rw [steps_eq, bind_ok hx]
    cases ht : s₁.texts with
    | nil =>
      -- without a line that is left, only the last section can have ended
      have hk : kind = .outcome := by
        by_contra hk
        exact hmore hk (State.lines_nil ht)
      rw [bind_ok (atEnd_nil ht), if_pos rfl, if_pos hk]
      rfl
    | cons text more =>
      have hc₁ : ∀ l ∈ s₁.texts.head?, ¬ k.Matches l .conjunction := State.forall_head_iff.mp hc
      have hc' : ¬ k.Matches text .conjunction := hc₁ text (by simp [ht])
      rw [bind_ok (atEnd_cons ht), if_neg Bool.false_ne_true, bind_ok (peek_apply ht), if_neg hc']
      rfl
  | @more input rest l next st new hst hc _ ih =>
    subst hs
    obtain ⟨s₁, hs₁, hx⟩ := step_apply hst
    obtain ⟨more, ht, -, -⟩ := State.of_lines_eq_cons hs₁
    obtain ⟨s₂, hs₂, hx₂⟩ := ih hs₁ hmore (done ++ [st])
    refine ⟨s₂, hs₂, ?_⟩
    rw [steps_eq, bind_ok hx, bind_ok (atEnd_cons ht), if_neg Bool.false_ne_true,
      bind_ok (peek_apply ht), if_pos hc, hx₂, List.append_assoc]
    rfl

end Descent

end FeatureDocs
