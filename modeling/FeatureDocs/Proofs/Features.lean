import FeatureDocs.Proofs.Blocks

/-!
# Features in a descent

The loop over the description and the blocks of a feature. It takes as long as lines are left, so
the induction is on their number, and what it adds to a feature that was begun is `Feature.extend`.
-/

namespace FeatureDocs

open Grammar

variable {k : KeywordTable}

/-! ### What is added to a feature -/

/-- The feature with more lines of description and more blocks. -/
def Feature.extend (f : Feature) (texts : List Text) (parts : List Part) : Feature :=
  { f with
    background := (f.background.toList ++ (backgrounds parts).map Member.scenario).head?
    scenarios := f.scenarios ++ (Grammar.scenarios parts).map Member.scenario
    outlines := f.outlines ++ Grammar.outlines parts
    description := f.description ++ texts }

@[simp] lemma Feature.extend_nil (f : Feature) : f.extend [] [] = f := by
  cases f with
  | mk name background =>
    cases background <;>
      simp [Feature.extend, backgrounds, Grammar.scenarios, Grammar.outlines]

/-- Extending twice is extending once by both descriptions and both lists of parts. -/
lemma Feature.extend_extend (f : Feature) (texts texts' : List Text) (parts parts' : List Part) :
    (f.extend texts parts).extend texts' parts' = f.extend (texts ++ texts') (parts ++ parts') := by
  have hhead : ∀ l l' : List Member, (l.head?.toList ++ l').head? = (l ++ l').head? := by
    intro l l'
    cases l <;> simp
  simp only [Feature.extend, hhead, backgrounds_append, scenarios_append, outlines_append,
    List.map_append, List.append_assoc]

lemma Feature.extend_text (f : Feature) (text : Text) :
    f.extend [text] [] = { f with description := f.description ++ [text] } := by
  cases hb : f.background <;>
    simp [Feature.extend, backgrounds, Grammar.scenarios, Grammar.outlines, hb]

lemma Feature.extend_background {f : Feature} (h : f.background = none) (b : Scenario) :
    f.extend [] [.background b] = { f with background := some (.scenario b) } := by
  simp [Feature.extend, backgrounds, Grammar.scenarios, Grammar.outlines, h]

lemma Feature.extend_outline (f : Feature) (o : Outline) :
    f.extend [] [.outline o] = { f with outlines := f.outlines ++ [o] } := by
  cases hb : f.background <;>
    simp [Feature.extend, backgrounds, Grammar.scenarios, Grammar.outlines, hb]

lemma Feature.extend_scenario (f : Feature) (s : Scenario) :
    f.extend [] [.scenario s] = { f with scenarios := f.scenarios ++ [.scenario s] } := by
  cases hb : f.background <;>
    simp [Feature.extend, backgrounds, Grammar.scenarios, Grammar.outlines, hb]

/-- The backgrounds of a feature with some more blocks. -/
def Feature.allBackgrounds (f : Feature) (parts : List Part) : List Member :=
  f.background.toList ++ (backgrounds parts).map Member.scenario

/-- A feature has a background already if no other one may follow. -/
lemma Feature.background_eq_none {f : Feature} {b : Scenario} {parts : List Part}
    (h : (f.allBackgrounds (.background b :: parts)).length ≤ 1) : f.background = none := by
  cases hb : f.background with
  | none => rfl
  | some b' => simp [Feature.allBackgrounds, backgrounds, hb] at h

/-- Moving the first part into the feature leaves the backgrounds counted as they were. -/
lemma Feature.allBackgrounds_extend {f : Feature} {p : Part}
    (h : ∀ b, p = .background b → f.background = none) (parts : List Part) :
    (f.extend [] [p]).allBackgrounds parts = f.allBackgrounds (p :: parts) := by
  cases p with
  | background b =>
    have hnone : f.background = none := h b rfl
    simp [Feature.extend, Feature.allBackgrounds, backgrounds, hnone]
  | scenario s =>
    cases hb : f.background <;> simp [Feature.extend, Feature.allBackgrounds, backgrounds, hb]
  | outline o =>
    cases hb : f.background <;> simp [Feature.extend, Feature.allBackgrounds, backgrounds, hb]

/-! ### What is added to an open feature -/

/-- A feature that was just begun has what is added to it, and nothing else. -/
lemma OpenFeature.extend_begun (name : Text) (line : Nat) (texts : List Text) (parts : List Part) :
    (close { name, line }).extend texts parts =
      { name
        background := (backgrounds parts).head?.map .scenario
        scenarios := (Grammar.scenarios parts).map .scenario
        outlines := Grammar.outlines parts
        description := texts
        line } := by
  rw [← List.head?_map]
  rfl

lemma OpenFeature.allBackgrounds_begun (name : Text) (line : Nat) (parts : List Part) :
    ((close { name, line }).allBackgrounds parts).length = (backgrounds parts).length :=
  List.length_map Member.scenario

lemma OpenFeature.close_describe (f : OpenFeature) (text : Text) :
    (f.describe text).close = f.close.extend [text] [] := by
  rw [Feature.extend_text]
  simp [OpenFeature.describe, OpenFeature.close]

/-- The second feature is the first one with one more block. -/
structure OpenFeature.Adds (f : OpenFeature) (p : Part) (f' : OpenFeature) : Prop where
  name : f'.name = f.name
  close : f'.close = f.close.extend [] [p]
  hasBlock : f'.hasBlock
  fresh : ∀ b, p = .background b → f.close.background = none

lemma OpenFeature.background_close_eq_none {f : OpenFeature} (h : f.background = none) :
    f.close.background = none := by
  rw [close, h, Option.map_none]

/-- A background read by the machine is added as the part of that kind. -/
lemma OpenFeature.adds_background {f : OpenFeature} (h : f.background = none) (line : Nat)
    (steps : List Step) :
    f.Adds (.background { name := [], steps, line })
      (f.addBlock (Block.addSteps { role := .background, name := [], line } steps)) where
  name := rfl
  close := by
    rw [Feature.extend_background (background_close_eq_none h)]
    simp [OpenFeature.addBlock, OpenFeature.close, Block.addSteps, Block.toScenario]
  hasBlock := rfl
  fresh _ _ := background_close_eq_none h

lemma OpenFeature.adds_outline (f : OpenFeature) (name : Text) (line : Nat) (steps : List Step)
    (t : DataTable) :
    f.Adds (.outline { name, steps, line, examples := some t })
      (f.addOutline (Block.addSteps { role := .outline, name, line } steps) t) where
  name := rfl
  close := by
    rw [Feature.extend_outline]
    simp [OpenFeature.addOutline, OpenFeature.close, Block.addSteps, Block.toScenario]
  hasBlock := by simp [OpenFeature.hasBlock, OpenFeature.addOutline]
  fresh := by simp

lemma OpenFeature.adds_scenario (f : OpenFeature) (name : Text) (line : Nat) (steps : List Step) :
    f.Adds (.scenario { name, steps, line })
      (f.addBlock (Block.addSteps { role := .scenario, name, line } steps)) where
  name := rfl
  close := by
    rw [Feature.extend_scenario]
    simp [OpenFeature.addBlock, OpenFeature.close, Block.addSteps, Block.toScenario]
  hasBlock := by simp [OpenFeature.hasBlock, OpenFeature.addBlock, Block.addSteps]
  fresh := by simp

/-! ### The rest of a feature -/

/-- The lines behind the head of a feature. -/
inductive Grammar.FeatureRest (k : KeywordTable) :
    List Line → List Text → List Part → List Line → Prop
  | rest {input a b rest : List Line} {texts : List Text} {parts : List Part}
      (hd : Description k input texts a) (hp : Parts k a parts b) (hgap : Gap b rest)
      (hrest : ∀ l ∈ rest.head?, k.Matches l.text .feature) : FeatureRest k input texts parts rest

namespace Grammar.FeatureRest

variable {l : Line} {input next mid rest : List Line} {texts : List Text} {parts : List Part}

lemma stop (hgap : Gap input rest) (hrest : ∀ l ∈ rest.head?, k.Matches l.text .feature) :
    FeatureRest k input [] [] rest :=
  .rest .stop .stop hgap hrest

lemma line (hgap : Gap input (l :: next)) (hf : ¬ k.Matches l.text .feature)
    (hb : ¬ k.Matches (Text.trim l.text) .background)
    (ho : ¬ k.Matches (Text.trim l.text) .outline) (hs : ¬ k.Matches (Text.trim l.text) .scenario)
    (h : FeatureRest k next texts parts rest) :
    FeatureRest k input (Text.trim l.text :: texts) parts rest := by
  cases h with
  | rest hd hp hgap' hrest => exact .rest (.line hgap hf hb ho hs hd) hp hgap' hrest

lemma part {p : Part} (hgap : Gap input (l :: next)) (hf : ¬ k.Matches l.text .feature)
    (hp : BlockLines k (l :: next) p mid) (h : FeatureRest k mid [] parts rest) :
    FeatureRest k input [] (p :: parts) rest := by
  cases h with
  | rest hd hps hgap' hrest =>
    cases hd with
    | stop => exact .rest .stop (.part hgap hf hp hps) hgap' hrest

end Grammar.FeatureRest

namespace Descent

variable {s s' : State} {text : Text} {rest : List Text} {fs : List Feature} {f f' : OpenFeature}
  {g : Feature}

/-- What is known when the rest of a feature was read from one state to another: its lines are
description and blocks, and the reader of lines sees what follows from outside. -/
structure ReadFeature (k : KeywordTable) (fs : List Feature) (f : OpenFeature) (s : State)
    (g : Feature) (s' : State) : Prop where
  derived : ∃ texts parts, (f.hasBlock → texts = []) ∧ FeatureRest k s.lines texts parts s'.lines ∧
    (f.close.allBackgrounds parts).length ≤ 1 ∧ g = f.close.extend texts parts
  same : s.reading k fs (some (f, .body)) = s'.reading k (g :: fs) none

/-- The feature has ended. -/
lemma ReadFeature.stop (hgap : Gap s.lines s'.lines)
    (hrest : ∀ l ∈ s'.lines.head?, k.Matches l.text .feature)
    (hsame : s.reading k fs (some (f, .body)) = s'.reading k (f.close :: fs) none) :
    ReadFeature k fs f s f.close s' := by
  refine ⟨⟨[], [], fun _ => rfl, .stop hgap hrest, ?_, ?_⟩, hsame⟩
  · cases hb : f.close.background <;> simp [Feature.allBackgrounds, backgrounds, hb]
  · rw [Feature.extend_nil]

/-- A line of description was read before. -/
lemma ReadFeature.line {l : Line} {next : List Line} {s₁ : State} (hgap : Gap s.lines (l :: next))
    (hs₁ : s₁.lines = next) (hf : ¬ k.Matches l.text .feature)
    (hb : ¬ k.Matches (Text.trim l.text) .background)
    (ho : ¬ k.Matches (Text.trim l.text) .outline) (hs : ¬ k.Matches (Text.trim l.text) .scenario)
    (hblock : ¬ f.hasBlock)
    (hsame : s.reading k fs (some (f, .body)) =
      s₁.reading k fs (some (f.describe (Text.trim l.text), .body)))
    (h : ReadFeature k fs (f.describe (Text.trim l.text)) s₁ g s') :
    ReadFeature k fs f s g s' := by
  obtain ⟨texts, parts, -, hrest, hone, rfl⟩ := h.derived
  subst hs₁
  refine ⟨⟨Text.trim l.text :: texts, parts, fun hb => absurd hb hblock,
    .line hgap hf hb ho hs hrest, hone, ?_⟩, hsame.trans h.same⟩
  rw [OpenFeature.close_describe, Feature.extend_extend]
  rfl

/-- A block was read before. -/
lemma ReadFeature.part {l : Line} {next : List Line} {p : Part} {s₁ : State}
    (hgap : Gap s.lines (l :: next)) (hf : ¬ k.Matches l.text .feature)
    (hp : BlockLines k (l :: next) p s₁.lines) (hadds : f.Adds p f')
    (hsame : s.reading k fs (some (f, .body)) = s₁.reading k fs (some (f', .body)))
    (h : ReadFeature k fs f' s₁ g s') : ReadFeature k fs f s g s' := by
  obtain ⟨texts, parts, htexts, hrest, hone, rfl⟩ := h.derived
  obtain rfl := htexts hadds.hasBlock
  refine ⟨⟨[], p :: parts, fun _ => rfl, .part hgap hf hp hrest, ?_, ?_⟩, hsame.trans h.same⟩
  · rwa [← Feature.allBackgrounds_extend hadds.fresh, ← hadds.close]
  · rw [hadds.close, Feature.extend_extend]
    rfl

/-! ### Lines between two blocks -/

section Lines

variable (fs : List Feature) (ht : s.texts = text :: rest) (hb : ¬ Text.isBlank text)
include ht hb

/-- A line that begins like a feature is looked at from outside. -/
lemma reading_nextFeature (hf : k.Matches text .feature) :
    s.reading k fs (some (f, .body)) = s.reading k (f.close :: fs) none := by
  rw [State.reading_cons ht, State.reading_cons ht]
  simp [ReaderState.read, ReaderState.advance, ReaderState.readBody, ReaderState.complete, hb, hf]

variable (hf : ¬ k.Matches text .feature)
include hf

/-- The first background of a feature opens a block. -/
lemma reading_background (h : k.Matches (Text.trim text) .background) (hnone : f.background = none) :
    s.reading k fs (some (f, .body)) = s.step.reading k fs
      (some (f, .head { role := .background, name := [], line := s.step.position })) := by
  apply State.reading_step ht
  simp [ReaderState.read, ReaderState.advance, ReaderState.readBody, ReaderState.goto, hb, hf, h,
    hnone, State.position_step ht]

lemma reading_duplicate (h : k.Matches (Text.trim text) .background) (hsome : f.background.isSome) :
    s.reading k fs (some (f, .body)) =
      rejectedIn fs f (.fault .duplicateBackground s.step.position) := by
  apply State.reading_error ht
  simp [ReaderState.read, ReaderState.advance, ReaderState.readBody, ReaderState.reject, rejectedIn,
    hb, hf, h, hsome, State.position_step ht]

variable (hback : ¬ k.Matches (Text.trim text) .background)
include hback

lemma reading_outline (h : k.Matches (Text.trim text) .outline) :
    s.reading k fs (some (f, .body)) = s.step.reading k fs
      (some (f, .head
        { role := .outline, name := k.strip (Text.trim text) .outline
          line := s.step.position })) := by
  apply State.reading_step ht
  simp [ReaderState.read, ReaderState.advance, ReaderState.readBody, ReaderState.goto, hb, hf, h,
    hback, State.position_step ht]

variable (hout : ¬ k.Matches (Text.trim text) .outline)
include hout

lemma reading_scenario (h : k.Matches (Text.trim text) .scenario) :
    s.reading k fs (some (f, .body)) = s.step.reading k fs
      (some (f, .head
        { role := .scenario, name := k.strip (Text.trim text) .scenario
          line := s.step.position })) := by
  apply State.reading_step ht
  simp [ReaderState.read, ReaderState.advance, ReaderState.readBody, ReaderState.goto, hb, hf, h,
    hback, hout, State.position_step ht]

variable (hscen : ¬ k.Matches (Text.trim text) .scenario)
include hscen

lemma reading_describe (h : ¬ f.hasBlock) :
    s.reading k fs (some (f, .body)) =
      s.step.reading k fs (some (f.describe (Text.trim text), .body)) := by
  apply State.reading_step ht
  simp [ReaderState.read, ReaderState.advance, ReaderState.readBody, ReaderState.goto, hb, hf, h,
    hback, hout, hscen]

/-- A line that opens nothing is rejected once the feature has a block. -/
lemma reading_unexpected (h : f.hasBlock) :
    s.reading k fs (some (f, .body)) =
      rejectedIn fs f (.fault .unexpectedLine s.step.position) := by
  apply State.reading_error ht
  simp [ReaderState.read, ReaderState.advance, ReaderState.readBody, ReaderState.reject, rejectedIn,
    hb, hf, h, hback, hout, hscen, State.position_step ht]

end Lines

/-! ### The loop -/

section Blocks

/-- What goes on behind a block gives `Q`, whichever block it is that the next line begins. -/
def GoesOn (k : KeywordTable) (fs : List Feature) (f : OpenFeature) (s : State) (text : Text)
    (next : Feature → Descent Feature) (Q : Feature → State → Prop) : Prop :=
  ∀ (p : Part) (f' : OpenFeature) (s' : State), s.step.Leads s' →
    BlockLines k (⟨s.step.position, text⟩ :: s.step.lines) p s'.lines → f.Adds p f' →
    s.reading k fs (some (f, .body)) = s'.reading k fs (some (f', .body)) →
    Reads (next f'.close) s' Q fun r => s.reading k fs (some (f, .body)) = rejectedIn fs f r

variable {next : Feature → Descent Feature} {Q : Feature → State → Prop}
  (ht : s.texts = text :: rest) (hb : ¬ Text.isBlank text) (hf : ¬ k.Matches text .feature)
  (hnext : GoesOn k fs f s text next Q)
include ht hb hf hnext

/-- Behind the keyword line of a background the descent reads the block and the rest of the feature,
or rejects a second background. -/
lemma background_next (h : k.Matches (Text.trim text) .background) :
    Reads (if f.close.background.isSome then reject .duplicateBackground
      else do
        let done ← background k
        next { f.close with
          background := some
            (.scenario { name := [], steps := done, line := s.step.position }) })
      s.step Q fun r => s.reading k fs (some (f, .body)) = rejectedIn fs f r := by
  cases hbackground : f.background with
  | some b =>
    have hsome : f.background.isSome := by rw [hbackground]; rfl
    have hclose : f.close.background.isSome := by
      rw [OpenFeature.close, hbackground]
      rfl
    rw [if_pos hclose]
    exact .reject (reading_duplicate fs ht hb hf h hsome)
  | none =>
    have hclose : ¬ f.close.background.isSome := by simp [OpenFeature.close, hbackground]
    rw [if_neg hclose]
    have hr := reading_background fs ht hb hf h hbackground
    refine (background_reads fs f rfl s.step).bind (fun r hr' => hr.trans hr') ?_
    rintro steps s' hs ⟨⟨start, hstart, hsteps⟩, hne, hr'⟩
    have hne' : s'.lines ≠ [] := fun h => hne (State.texts_eq_nil h)
    have hadds := OpenFeature.adds_background hbackground s.step.position steps
    rw [← Feature.extend_background (hadds.fresh _ rfl), ← hadds.close]
    exact hnext _ _ _ hs (.background h hstart hsteps hne') hadds (hr.trans hr')

variable (hback : ¬ k.Matches (Text.trim text) .background)
include hback

/-- Behind the header of an outline the descent reads its steps, its examples and the rest of the
feature. -/
lemma outline_next (h : k.Matches (Text.trim text) .outline) :
    Reads (do
      let done ← sections k
      let t ← examples k
      next { f.close with
        outlines := f.close.outlines ++
          [{ name := k.strip (Text.trim text) .outline, steps := done, line := s.step.position
             examples := some t }] })
      s.step Q fun r => s.reading k fs (some (f, .body)) = rejectedIn fs f r := by
  have hr := reading_outline fs (f := f) ht hb hf hback h
  have hrole : Role.outline ≠ .background := by decide
  refine (sections_reads fs f hrole s.step).bind (fun r hr' => hr.trans hr') ?_
  rintro steps s₁ hs₁ ⟨hsections, hb₁, hc₁, hr₁⟩
  refine (examples_reads fs f rfl hb₁ hc₁).bind (fun r hr' => hr.trans (hr₁.trans hr')) ?_
  rintro t s₂ hs₂ ⟨hexamples, hr₂⟩
  have hadds := f.adds_outline (k.strip (Text.trim text) .outline) s.step.position steps t
  rw [← Feature.extend_outline, ← hadds.close]
  exact hnext _ _ _ (hs₁.trans hs₂) (.outline hback h hsections hexamples) hadds
    (hr.trans (hr₁.trans hr₂))

/-- Behind the header of a scenario the descent reads its steps and the rest of the feature. -/
lemma scenario_next (hout : ¬ k.Matches (Text.trim text) .outline)
    (h : k.Matches (Text.trim text) .scenario) :
    Reads (do
      let done ← sections k
      next { f.close with
        scenarios := f.close.scenarios ++
          [.scenario { name := k.strip (Text.trim text) .scenario, steps := done
                       line := s.step.position }] })
      s.step Q fun r => s.reading k fs (some (f, .body)) = rejectedIn fs f r := by
  have hr := reading_scenario fs (f := f) ht hb hf hback hout h
  have hrole : Role.scenario ≠ .background := by decide
  refine (sections_reads fs f hrole s.step).bind (fun r hr' => hr.trans hr') ?_
  rintro steps s' hs ⟨hsections, hb', hc', hr'⟩
  have hadds := f.adds_scenario (k.strip (Text.trim text) .scenario) s.step.position steps
  rw [readingAfter_scenario hb' hc' rfl] at hr'
  rw [← Feature.extend_scenario, ← hadds.close]
  exact hnext _ _ _ hs (.scenario hback hout h hsections) hadds (hr.trans hr')

end Blocks

/-- The machine reads what is left of a feature as the descent does: both end with the same feature
in the same line, or reject the same way. -/
lemma feature_reads (fs : List Feature) (f : OpenFeature) (s : State) :
    Reads (feature k f.close (!f.hasBlock)) s (fun g s' => ReadFeature k fs f s g s')
      fun r => s.reading k fs (some (f, .body)) = rejectedIn fs f r := by
  induction hn : s.texts.length using Nat.strong_induction_on generalizing s f with
  | _ n ih =>
    -- the induction is on the number of lines left: every way to go on has consumed at least one
    subst hn
    rw [feature_eq]
    refine (skipBlanks_reads (skipsBlanks_body k f) fs s).bind (fun _ h => h.elim)
      fun _ s₁ hs₁ ⟨hgap, hr₁⟩ => ?_
    rw [hr₁]
    have hlen := hs₁.length_le
    refine .atEnd (fun hnil => ?_) fun text rest ht => ?_
    · rw [if_pos rfl]
      refine .pure (.stop hgap (by simp [State.lines_nil hnil]) ?_)
      rw [hr₁, State.reading_nil hnil, State.reading_nil hnil]
      rfl
    have hb : ∀ l ∈ s₁.texts.head?, ¬ Text.isBlank l := State.forall_head_iff.mp hgap.head
    have hb : ¬ Text.isBlank text := hb text (by simp [ht])
    rw [if_neg Bool.false_ne_true]
    apply Reads.peek ht
    by_cases hf : k.Matches text .feature
    · rw [if_pos hf]
      refine .pure (.stop hgap (by simp [State.lines_step ht, hf]) ?_)
      rw [hr₁, reading_nextFeature fs ht hb hf]
    rw [if_neg hf]
    refine .command ht (.line ?_)
    rw [State.lines_step ht, ← State.position_step ht] at hgap
    have hlt : s₁.step.texts.length < s.texts.length := by
      rw [ht] at hlen
      rw [State.texts_step ht]
      exact hlen
    -- shared by the three kinds of blocks: from behind a block the loop goes on with fewer lines
    have hnext : GoesOn k fs f s₁ text (fun g => feature k g false)
        fun g s' => ReadFeature k fs f s g s' := by
      intro p f' s₂ hs₂ hp hadds hr₂
      have hloop := ih _ (Nat.lt_of_le_of_lt hs₂.length_le hlt) f' s₂ rfl
      rw [hadds.hasBlock] at hloop
      refine hloop.mono (fun g s' _ h => .part hgap hf hp hadds (hr₁.trans hr₂) h) fun r hr => ?_
      rw [hr₂, hr, rejectedIn, rejectedIn, hadds.name]
    by_cases hback : k.Matches (Text.trim text) .background
    · rw [if_pos hback]
      exact background_next ht hb hf hnext hback
    rw [if_neg hback]
    by_cases hout : k.Matches (Text.trim text) .outline
    · rw [if_pos hout]
      exact outline_next ht hb hf hnext hback hout
    rw [if_neg hout]
    by_cases hscen : k.Matches (Text.trim text) .scenario
    · rw [if_pos hscen]
      exact scenario_next ht hb hf hnext hback hout hscen
    rw [if_neg hscen]
    by_cases hblock : f.hasBlock
    · rw [hblock]
      exact .reject (reading_unexpected fs ht hb hf hback hout hscen hblock)
    · have hr₂ := reading_describe fs ht hb hf hback hout hscen hblock
      have hfalse : f.hasBlock = false := by simpa using hblock
      have hloop := ih _ hlt (f.describe (Text.trim text)) s₁.step rfl
      have hfalse' : (f.describe (Text.trim text)).hasBlock = false := hfalse
      rw [hfalse'] at hloop
      rw [hfalse, Bool.not_false, if_pos rfl, ← Feature.extend_text, ← OpenFeature.close_describe]
      refine hloop.mono (fun g s' _ h => ?_) fun r hr => hr₂.trans hr
      exact .line hgap rfl hf hback hout hscen hblock (hr₁.trans hr₂) h

/-- The loop up to the next line of a feature, which is read. -/
lemma feature_apply_line {input next : List Line} {l : Line} (hgap : Gap input (l :: next))
    (hs : s.lines = input) (hf : ¬ k.Matches l.text .feature) :
    ∃ s₁ : State, s₁.lines = next ∧ s₁.position = l.number ∧ ∀ describing,
      feature k g describing s =
        (if k.Matches (Text.trim l.text) .background then
          if g.background.isSome then reject .duplicateBackground
          else do
            let done ← background k
            feature k
              { g with
                background := some (.scenario { name := [], steps := done, line := l.number }) }
              false
        else if k.Matches (Text.trim l.text) .outline then do
          let done ← sections k
          let t ← examples k
          feature k
            { g with
              outlines := g.outlines ++
                [{ name := k.strip (Text.trim l.text) .outline, steps := done, line := l.number
                   examples := some t }] }
            false
        else if k.Matches (Text.trim l.text) .scenario then do
          let done ← sections k
          feature k
            { g with
              scenarios := g.scenarios ++
                [.scenario { name := k.strip (Text.trim l.text) .scenario, steps := done
                             line := l.number }] }
            false
        else if describing then
          feature k { g with description := g.description ++ [Text.trim l.text] } true
        else reject .unexpectedLine : Descent Feature) s₁ := by
  subst hs
  obtain ⟨s₁, hs₁, hx⟩ := skipBlanks_apply hgap
  obtain ⟨more, ht, hnumber, hstep⟩ := State.of_lines_eq_cons hs₁
  refine ⟨s₁.step, hstep, (State.position_step ht).trans hnumber.symm, fun describing => ?_⟩
  rw [feature_eq, bind_ok hx, bind_ok (atEnd_cons ht), if_neg Bool.false_ne_true,
    bind_ok (peek_apply ht), if_neg hf, bind_ok (command_apply ht), bind_ok line_apply,
    State.position_step ht, hnumber]

/-- The loop stops at the end of the lines and at the next line that begins like a feature. -/
lemma feature_apply_stop {rest : List Line} (hgap : Gap s.lines rest)
    (hrest : ∀ l ∈ rest.head?, k.Matches l.text .feature) (describing : Bool) :
    ∃ s', s'.lines = rest ∧ feature k g describing s = some (.ok g, s') := by
  obtain ⟨s₁, rfl, hx⟩ := skipBlanks_apply hgap
  refine ⟨s₁, rfl, ?_⟩
  rw [feature_eq, bind_ok hx]
  cases ht : s₁.texts with
  | nil =>
    rw [bind_ok (atEnd_nil ht)]
    rfl
  | cons text more =>
    have hf : ∀ l ∈ s₁.texts.head?, k.Matches l .feature := State.forall_head_iff.mp hrest
    have hf : k.Matches text .feature := hf text (by simp [ht])
    rw [bind_ok (atEnd_cons ht), if_neg Bool.false_ne_true, bind_ok (peek_apply ht), if_pos hf]
    rfl

/-- The descent reads any list of blocks that the grammar derives, when they bring at most one
background. -/
lemma feature_apply_parts {input mid rest : List Line} {parts : List Part}
    (h : Parts k input parts mid) (hs : s.lines = input) (hgap : Gap mid rest)
    (hrest : ∀ l ∈ rest.head?, k.Matches l.text .feature)
    (hone : (g.allBackgrounds parts).length ≤ 1) (describing : Bool) :
    ∃ s', s'.lines = rest ∧ feature k g describing s = some (.ok (g.extend [] parts), s') := by
  induction h generalizing s g describing with
  | stop =>
    subst hs
    rw [Feature.extend_nil]
    exact feature_apply_stop hgap hrest describing
  | @part l input next mid rest p parts hstart hf hp _ ih =>
    obtain ⟨s₁, rfl, hnumber, hx⟩ := feature_apply_line (g := g) hstart hs hf
    -- with one background at most, none has come before this one
    have hfresh : ∀ b, p = .background b → g.background = none := by
      rintro b rfl
      exact Feature.background_eq_none hone
    rw [← Feature.allBackgrounds_extend hfresh] at hone
    have hextend : (g.extend [] [p]).extend [] parts = g.extend [] (p :: parts) := by
      rw [Feature.extend_extend]
      rfl
    rw [hx describing, ← hextend]
    cases hp with
    | @background _ _ _ _ steps hl hgap' hsteps hne =>
      have hnone := hfresh _ rfl
      obtain ⟨s₂, rfl, hx₂⟩ := background_apply hgap' hsteps hne
      obtain ⟨s₃, hs₃, hx₃⟩ := ih rfl hgap hone false
      refine ⟨s₃, hs₃, ?_⟩
      rw [if_pos hl, if_neg (by simp [hnone]), bind_ok hx₂, ← Feature.extend_background hnone, hx₃]
    | @outline _ _ _ _ steps t hb hl hsections hexamples =>
      obtain ⟨s₂, rfl, hx₂⟩ := sections_apply hsections
      obtain ⟨s₃, rfl, hx₃⟩ := examples_apply (State.forall_head_iff.mp hsections.head) hexamples
      obtain ⟨s₄, hs₄, hx₄⟩ := ih rfl hgap hone false
      refine ⟨s₄, hs₄, ?_⟩
      rw [if_neg hb, if_pos hl, bind_ok hx₂, bind_ok hx₃, ← Feature.extend_outline, hx₄]
    | @scenario _ _ _ steps hb ho hl hsections =>
      obtain ⟨s₂, rfl, hx₂⟩ := sections_apply hsections
      obtain ⟨s₃, hs₃, hx₃⟩ := ih rfl hgap hone false
      refine ⟨s₃, hs₃, ?_⟩
      rw [if_neg hb, if_neg ho, if_pos hl, bind_ok hx₂, ← Feature.extend_scenario, hx₃]

/-- The descent reads a description and blocks that the grammar derives, when they bring at most one
background. -/
lemma feature_apply {texts : List Text} {parts : List Part} {rest : List Line}
    (h : FeatureRest k s.lines texts parts rest) (hone : (g.allBackgrounds parts).length ≤ 1) :
    ∃ s', s'.lines = rest ∧ feature k g true s = some (.ok (g.extend texts parts), s') := by
  obtain ⟨hd, hp, hgap, hrest⟩ := h
  generalize hs : s.lines = input at hd
  induction hd generalizing s g with
  | stop => exact feature_apply_parts hp hs hgap hrest hone true
  | @line l input next mid texts hstart hf hb ho hsc _ ih =>
    obtain ⟨s₁, rfl, -, hx⟩ := feature_apply_line (g := g) hstart hs hf
    have hone' : ((g.extend [Text.trim l.text] []).allBackgrounds parts).length ≤ 1 := by
      rwa [Feature.extend_text]
    obtain ⟨s₂, hs₂, hx₂⟩ := ih hone' hp rfl
    refine ⟨s₂, hs₂, ?_⟩
    rw [hx true, if_neg hb, if_neg ho, if_neg hsc, if_pos rfl, ← Feature.extend_text, hx₂,
      Feature.extend_extend]
    rfl

/-! ### Between two features -/

/-- The first line of a feature. -/
lemma reading_begin (ht : s.texts = text :: rest) (hb : ¬ Text.isBlank text)
    (hf : k.Matches (Text.trim text) .feature) :
    s.reading k fs none = s.step.reading k fs
      (some ({ name := k.strip (Text.trim text) .feature, line := s.step.position }, .body)) := by
  apply State.reading_step ht
  simp [ReaderState.read, ReaderState.advance, ReaderState.readFeature, ReaderState.goto, hb, hf,
    State.position_step ht]

lemma reading_expected (ht : s.texts = text :: rest) (hb : ¬ Text.isBlank text)
    (hf : ¬ k.Matches (Text.trim text) .feature) :
    s.reading k fs none =
      { features := fs.reverse
        rejection := some (.fault .expectedFeature s.step.position) } := by
  apply State.reading_error ht
  simp [ReaderState.read, ReaderState.advance, ReaderState.readFeature, ReaderState.reject, hb, hf,
    State.position_step ht]

end Descent

end FeatureDocs
