import FeatureDocs.Proofs.Ends

/-!
# What a line does

The next line is rejected, or the reader stays where it is, in the feature it is in or outside of
all features; or the line begins a feature, and ends the one before it if there is one
(`ReaderState.moves`). A feature lists its blocks in the order of their lines, so the lines tell
whether its last block is its background.
-/

namespace FeatureDocs

/-! ### The order of blocks -/

/-- A feature with a background below all its scenarios and outlines. -/
def Feature.EndsInBackground (f : Feature) : Prop :=
  ∃ b ∈ f.background, (∀ s ∈ f.scenarios, s.toScenario.line < b.toScenario.line) ∧
    ∀ o ∈ f.outlines, o.line < b.toScenario.line

/-- All blocks of a feature stand above a line. -/
structure OpenFeature.Above (f : OpenFeature) (m : Nat) : Prop where
  background : ∀ b ∈ f.background, b.line < m
  scenarios : ∀ s ∈ f.scenarios, s.line < m
  outlines : ∀ o ∈ f.outlines, o.line < m

/-- After `m` lines, the block that is being read is the lowest one; and where none is being read, a
background is not. -/
def Ordered (m : Nat) (f : OpenFeature) : Place → Prop
  | .body => f.Above (m + 1) ∧ ¬ f.close.EndsInBackground
  | .head b | .step b _ | .examples b | .examplesTable b _ => f.Above b.line ∧ b.line ≤ m

variable {f g : OpenFeature} {b : Block} {p : Place} {m : Nat} {final : Bool}

lemma OpenFeature.line_addBlock (f : OpenFeature) (b : Block) : (f.addBlock b).line = f.line := by
  cases hrole : b.role <;> simp only [OpenFeature.addBlock, hrole]

lemma OpenFeature.name_addBlock (f : OpenFeature) (b : Block) : (f.addBlock b).name = f.name := by
  cases hrole : b.role <;> simp only [OpenFeature.addBlock, hrole]

lemma Ends.line (h : Ends f p g final) : g.line = f.line := by
  cases h with
  | body => rfl
  | scenario => exact f.line_addBlock _
  | examples => rfl
  | background => exact f.line_addBlock _

lemma Ends.name (h : Ends f p g final) : g.name = f.name := by
  cases h with
  | body => rfl
  | scenario => exact f.name_addBlock _
  | examples => rfl
  | background => exact f.name_addBlock _

/-- A line that is not about a step is not blank, and closes it. -/
lemma OpenStep.closed_of_passed {s : OpenStep} {line : Text} (h : s.offer line = .passed) :
    s.attachment.Closed ∧ ¬ Text.isBlank line := by
  cases ha : s.attachment with
  | docString t indentation body =>
    simp only [OpenStep.offer, ha] at h
    split_ifs at h
  | _ =>
    refine ⟨trivial, fun hb => ?_⟩
    simp [OpenStep.offer, ha, hb] at h

lemma OpenFeature.Above.mono {m' : Nat} (h : f.Above m) (hm : m ≤ m') : f.Above m' where
  background b hb := Int.lt_of_lt_of_le (h.background b hb) (Int.ofNat_le.mpr hm)
  scenarios s hs := Int.lt_of_lt_of_le (h.scenarios s hs) (Int.ofNat_le.mpr hm)
  outlines o ho := Int.lt_of_lt_of_le (h.outlines o ho) (Int.ofNat_le.mpr hm)

lemma OpenFeature.Above.addBlock (h : f.Above b.line) (hm : b.line < m) :
    (f.addBlock b).Above m := by
  have hb : (b.line : Int) < m := Int.ofNat_lt.mpr hm
  have habove := h.mono (Nat.le_of_lt hm)
  cases hrole : b.role with
  | background =>
    refine ⟨?_, ?_, ?_⟩ <;> simp only [OpenFeature.addBlock, hrole]
    · rintro _ ⟨⟩
      exact hb
    · exact habove.scenarios
    · exact habove.outlines
  | scenario =>
    refine ⟨?_, ?_, ?_⟩ <;> simp only [OpenFeature.addBlock, hrole]
    · exact habove.background
    · exact List.forall_mem_cons.mpr ⟨hb, habove.scenarios⟩
    · exact habove.outlines
  | outline =>
    refine ⟨?_, ?_, ?_⟩ <;> simp only [OpenFeature.addBlock, hrole]
    · exact habove.background
    · exact habove.scenarios
    · exact List.forall_mem_cons.mpr ⟨hb, habove.outlines⟩

lemma OpenFeature.Above.addOutline (h : f.Above b.line) (hm : b.line < m) (t : DataTable) :
    (f.addOutline b t).Above m where
  background := (h.mono (Nat.le_of_lt hm)).background
  scenarios := (h.mono (Nat.le_of_lt hm)).scenarios
  outlines := List.forall_mem_cons.mpr ⟨Int.ofNat_lt.mpr hm, (h.mono (Nat.le_of_lt hm)).outlines⟩

/-- A feature to which an outline was added last does not end in its background. -/
lemma OpenFeature.Above.not_endsInBackground_addOutline (h : f.Above b.line) (t : DataTable) :
    ¬ (f.addOutline b t).close.EndsInBackground := by
  rintro ⟨_, hb', -, houtlines⟩
  obtain ⟨b', hmem, rfl⟩ := Option.map_eq_some_iff.mp hb'
  have hbefore : b'.line < b.line := h.background b' hmem
  have hbehind : (b.line : Int) < b'.line := houtlines
    { toScenario := b.toScenario, examples := some t }
    (by simp [OpenFeature.close, OpenFeature.addOutline])
  omega

lemma OpenFeature.Above.not_endsInBackground_addBlock (h : f.Above b.line)
    (hrole : b.role = .scenario) : ¬ (f.addBlock b).close.EndsInBackground := by
  rintro ⟨_, hb', hscenarios, -⟩
  simp only [OpenFeature.close, OpenFeature.addBlock, hrole] at hb' hscenarios
  obtain ⟨b', hmem, rfl⟩ := Option.map_eq_some_iff.mp hb'
  have hbefore : b'.line < b.line := h.background b' hmem
  have hbehind : (b.line : Int) < b'.line := hscenarios (.scenario b.toScenario) (by simp)
  omega

/-- A feature ends in its background just where the document may not end. -/
lemma Ends.endsInBackground_iff (h : Ends f p g final) (hf : Ordered m f p) :
    g.close.EndsInBackground ↔ final = false := by
  cases h with
  | body => simpa using hf.2
  | examples b t => simpa using hf.1.not_endsInBackground_addOutline t.close
  | @scenario b s hrole =>
    have hf' : f.Above (b.addStep s.close).line := hf.1
    simpa using hf'.not_endsInBackground_addBlock hrole
  | @background b s hrole =>
    have hrole' : (b.addStep s.close).role = .background := hrole
    refine ⟨fun _ => rfl, fun _ => ⟨.scenario (b.addStep s.close).toScenario, ?_, ?_, ?_⟩⟩
    · simp [OpenFeature.close, OpenFeature.addBlock, hrole']
    · intro m hm
      simp only [OpenFeature.close, OpenFeature.addBlock, hrole'] at hm
      obtain ⟨s', hs', rfl⟩ := List.mem_map.mp hm
      exact hf.1.scenarios s' (List.mem_reverse.mp hs')
    · intro o ho
      simp only [OpenFeature.close, OpenFeature.addBlock, hrole'] at ho
      exact hf.1.outlines o (List.mem_reverse.mp ho)

/-! ### One line -/

namespace ReaderState

/-- What a line can do. -/
inductive Moves (k : KeywordTable) (s : ReaderState) (line : Text) :
    Except Reading ReaderState → Prop
  /-- The document is rejected, with the features that were complete before, in the feature that the
  reader is in. -/
  | rejects {r : Reading} (hfeatures : r.features = s.features.reverse)
      (hrejection : r.rejection.isSome) (habandoned : r.abandoned = s.current.map (·.1.name)) :
      Moves k s line (.error r)
  /-- The line is blank, outside of all features. -/
  | idle (hc : s.current = none) :
      Moves k s line (.ok { line := s.line + 1, features := s.features })
  /-- The line begins a feature, outside of all features. -/
  | begins (hc : s.current = none) (hf : k.Matches (Text.trim line) .feature) :
      Moves k s line
        (.ok ⟨s.line + 1, s.features,
          some ({ name := k.strip (Text.trim line) .feature, line := s.line + 1 }, .body)⟩)
  /-- The line is one of the feature. -/
  | stays {f f' : OpenFeature} {p p' : Place} (hc : s.current = some (f, p))
      (hline : f'.line = f.line) (hordered : Ordered s.line f p → Ordered (s.line + 1) f' p')
      (hname : f'.name = f.name) :
      Moves k s line (.ok ⟨s.line + 1, s.features, some (f', p')⟩)
  /-- The line begins like a feature, and is looked at from outside. -/
  | ends {f g : OpenFeature} {p : Place} {final : Bool} (hc : s.current = some (f, p))
      (hb : ¬ Text.isBlank line) (hf : k.Matches line .feature) (hends : Ends f p g final) :
      Moves k s line (ReaderState.readFeature k ⟨s.line + 1, g.close :: s.features, none⟩ line)

variable {k : KeywordTable} {s : ReaderState} {line : Text}

/-- A line outside features begins one or is rejected. -/
lemma readFeature_cases (s : ReaderState) (line : Text) :
    k.Matches (Text.trim line) .feature ∧ s.readFeature k line =
        .ok (s.goto { name := k.strip (Text.trim line) .feature, line := s.line } .body) ∨
      s.readFeature k line = .error (s.reject .expectedFeature) := by
  simp only [ReaderState.readFeature]
  split_ifs with hf
  · exact .inl ⟨hf, rfl⟩
  · exact .inr rfl

/-- A line that should be a step is one or is rejected. -/
lemma readStep_cases (s : ReaderState) (f : OpenFeature) (b : Block) (kind : StepKind)
    (line : Text) :
    (∃ step, s.readStep k f b kind line = .ok (s.goto f (.step b step))) ∨
      ∃ fault, s.readStep k f b kind line = .error (s.reject fault) := by
  simp only [ReaderState.readStep]
  split_ifs
  · exact .inl ⟨_, rfl⟩
  · exact .inl ⟨_, rfl⟩
  · exact .inr ⟨_, rfl⟩

/-- A line between two blocks that does not begin like a feature. -/
lemma readBody_cases (s : ReaderState) (hf : ¬ k.Matches line .feature) (f : OpenFeature) :
    (∃ f' p', s.readBody k f line = .ok (s.goto f' p') ∧ f'.line = f.line ∧ f'.name = f.name ∧
        (f.Above s.line → Ordered s.line f' p')) ∨
      ∃ fault, s.readBody k f line = .error (s.reject fault) := by
  simp only [ReaderState.readBody, hf, if_false]
  split_ifs with hback hsome hout hscen hblock
  · exact .inr ⟨_, rfl⟩
  · exact .inl ⟨f, _, rfl, rfl, rfl, fun h => ⟨h, Nat.le_refl _⟩⟩
  · exact .inl ⟨f, _, rfl, rfl, rfl, fun h => ⟨h, Nat.le_refl _⟩⟩
  · exact .inl ⟨f, _, rfl, rfl, rfl, fun h => ⟨h, Nat.le_refl _⟩⟩
  · exact .inr ⟨_, rfl⟩
  · refine .inl ⟨_, .body, rfl, rfl, rfl, fun h => ⟨?_, ?_⟩⟩
    · exact ⟨(h.mono (Nat.le_succ _)).background, (h.mono (Nat.le_succ _)).scenarios,
        (h.mono (Nat.le_succ _)).outlines⟩
    · rintro ⟨b, hb, -⟩
      -- lines of description stand above all blocks
      have hnone : f.background = none := by
        cases hback : f.background with
        | none => rfl
        | some b' => simp [OpenFeature.hasBlock, hback] at hblock
      have hb' : b ∈ f.background.map Member.scenario := hb
      rw [hnone] at hb'
      exact absurd hb' (by simp)

section Moves

variable {f g : OpenFeature} {p : Place} {final : Bool}

lemma moves_readStep (hc : s.current = some (f, p)) {b : Block} (kind : StepKind)
    (hordered : Ordered s.line f p → f.Above b.line ∧ b.line ≤ s.line) :
    Moves k s line (s.advance.readStep k f b kind line) := by
  rcases readStep_cases (k := k) s.advance f b kind line with ⟨step, h⟩ | ⟨fault, h⟩
  · rw [h]
    exact .stays hc rfl (fun h => ⟨(hordered h).1, Nat.le_succ_of_le (hordered h).2⟩) rfl
  · rw [h]
    exact .rejects rfl rfl rfl

/-- A line at a place where the feature may end. -/
lemma moves_readBody (hc : s.current = some (f, p)) (hb : ¬ Text.isBlank line)
    (hends : Ends f p g final) (habove : Ordered s.line f p → g.Above (s.line + 1)) :
    Moves k s line (s.advance.readBody k g line) := by
  by_cases hf : k.Matches line .feature
  · have hread : s.advance.readBody k g line =
        ReaderState.readFeature k ⟨s.line + 1, g.close :: s.features, none⟩ line := by
      simp only [ReaderState.readBody, hf, if_true]
      rfl
    rw [hread]
    exact .ends hc hb hf hends
  · rcases readBody_cases s.advance hf g with
      ⟨f', p', h, hline, hname, hordered⟩ | ⟨fault, h⟩
    · rw [h]
      exact .stays hc (hline.trans hends.line) (fun h => hordered (habove h))
        (hname.trans hends.name)
    · rw [h]
      exact .rejects rfl rfl rfl

/-- A line behind a step to which nothing is open. -/
lemma moves_readAfterStep {b : Block} {step : OpenStep} (hc : s.current = some (f, .step b step))
    (hb : ¬ Text.isBlank line) (hclosed : step.attachment.Closed) :
    Moves k s line
      (s.advance.readAfterStep k f (b.addStep step.close) step.kind line) := by
  have hstep : ∀ kind, Moves k s line
      (s.advance.readStep k f (b.addStep step.close) kind line) :=
    fun kind => moves_readStep hc kind fun h => h
  -- the block is closed when its sections are complete; until then the next section is due
  have hblock : Ordered s.line f (.step b step) →
      (f.addBlock (b.addStep step.close)).Above (s.line + 1) := by
    intro h
    have habove : f.Above (b.addStep step.close).line := h.1
    exact habove.addBlock (Nat.lt_succ_of_le h.2)
  simp only [ReaderState.readAfterStep]
  split_ifs
  · exact hstep step.kind
  · cases hrole : b.role with
    | background =>
      have hrole' : (b.addStep step.close).role = .background := hrole
      simp only [hrole', Role.next?]
      exact moves_readBody hc hb (.background hrole hclosed) hblock
    | scenario =>
      have hrole' : (b.addStep step.close).role = .scenario := hrole
      cases hkind : step.kind with
      | context => simpa only [hrole', Role.next?] using hstep .action
      | action => simpa only [hrole', Role.next?] using hstep .outcome
      | outcome =>
        simp only [hrole', Role.next?]
        exact moves_readBody hc hb (.scenario hrole hkind hclosed) hblock
    | outline =>
      have hrole' : (b.addStep step.close).role = .outline := hrole
      cases hkind : step.kind with
      | context => simpa only [hrole', Role.next?] using hstep .action
      | action => simpa only [hrole', Role.next?] using hstep .outcome
      | outcome =>
        simp only [hrole', Role.next?, ReaderState.readExamples]
        split_ifs
        · exact .stays hc rfl (fun h => ⟨h.1, Nat.le_succ_of_le h.2⟩) rfl
        · exact .rejects rfl rfl rfl

end Moves

/-- A line outside of all features. -/
lemma moves_outside (hc : s.current = none) : Moves k s line (s.read k line) := by
  simp only [ReaderState.read, hc]
  split_ifs with hb
  · rcases s with ⟨n, fs, c⟩
    obtain rfl : c = none := hc
    exact .idle rfl
  · rcases readFeature_cases (k := k) s.advance line with ⟨hf, h⟩ | h
    · rw [h]
      exact .begins hc hf
    · rw [h]
      exact .rejects rfl rfl rfl

/-- A line does one of these things. -/
theorem moves (k : KeywordTable) (s : ReaderState) (line : Text) :
    Moves k s line (s.read k line) := by
  rcases hc : s.current with _ | ⟨f, p⟩
  · exact moves_outside hc
  -- where the reader stays at its place, the block that is being read is still the lowest one
  have hstay : ∀ {b : Block} {p' : Place}, (Ordered s.line f p → f.Above b.line ∧ b.line ≤ s.line) →
      (f.Above b.line ∧ b.line ≤ s.line + 1 → Ordered (s.line + 1) f p') →
      Moves k s line (.ok ⟨s.line + 1, s.features, some (f, p')⟩) := by
    intro b p' h h'
    exact .stays hc rfl (fun ho => h' ⟨(h ho).1, Nat.le_succ_of_le (h ho).2⟩) rfl
  cases p with
  | body =>
    simp only [ReaderState.read, hc]
    split_ifs with hb
    · rcases s with ⟨n, fs, c⟩
      obtain rfl : c = some (f, .body) := hc
      exact .stays rfl rfl (fun h => ⟨h.1.mono (Nat.le_succ _), h.2⟩) rfl
    · exact moves_readBody hc hb (.body f) fun h => h.1
  | head b =>
    simp only [ReaderState.read, hc]
    split_ifs with hb
    · rcases s with ⟨n, fs, c⟩
      obtain rfl : c = some (f, .head b) := hc
      exact hstay (fun h => h) fun h => h
    · exact moves_readStep hc .context fun h => h
  | step b step =>
    simp only [ReaderState.read, hc]
    cases hoffer : step.offer line with
    | taken step' => exact hstay (b := b) (fun h => h) fun h => h
    | refused fault => exact .rejects rfl rfl rfl
    | passed =>
      obtain ⟨hclosed, hb⟩ := OpenStep.closed_of_passed hoffer
      exact moves_readAfterStep hc hb hclosed
  | examples b =>
    simp only [ReaderState.read, hc]
    split_ifs with hb hrow
    · rcases s with ⟨n, fs, c⟩
      obtain rfl : c = some (f, .examples b) := hc
      exact hstay (fun h => h) fun h => h
    · exact hstay (b := b) (fun h => h) fun h => h
    · exact .rejects rfl rfl rfl
  | examplesTable b t =>
    have hbelow : Ordered s.line f (.examplesTable b t) →
        (f.addOutline b t.close).Above (s.line + 1) := fun h =>
      h.1.addOutline (Nat.lt_succ_of_le h.2) t.close
    simp only [ReaderState.read, hc]
    split_ifs with hb hrow
    · refine .stays hc rfl (fun h => ⟨(hbelow h).mono (Nat.le_succ _), ?_⟩) rfl
      exact h.1.not_endsInBackground_addOutline t.close
    · cases t.addRow (DataTable.cells line) with
      | ok t' => exact hstay (b := b) (fun h => h) fun h => h
      | error e => exact .rejects rfl rfl rfl
    · exact moves_readBody hc hb (.examples f b t) hbelow

/-! ### Many lines -/

variable {s' : ReaderState} {r : Reading}

/-- A document is rejected for a line in the feature that the reader is in, or below it. -/
lemma cases_of_error (h : s.read k line = .error r) :
    (r.features = s.features.reverse ∧ r.rejection.isSome ∧
        r.abandoned = s.current.map (·.1.name)) ∨
      ∃ f g p final, s.current = some (f, p) ∧ Ends f p g final ∧
        r = ReaderState.reject ⟨s.line + 1, g.close :: s.features, none⟩ .expectedFeature := by
  have hmoves := moves k s line
  generalize hx : s.read k line = x at hmoves
  rw [hx] at h
  cases hmoves with
  | rejects hfeatures hrejection habandoned =>
    cases h
    exact .inl ⟨hfeatures, hrejection, habandoned⟩
  | @ends f g p final hc _ _ hends =>
    rcases readFeature_cases (k := k) ⟨s.line + 1, g.close :: s.features, none⟩ line with
      ⟨-, hread⟩ | hread
    · rw [hread] at h
      cases h
    · rw [hread] at h
      cases h
      exact .inr ⟨f, g, p, final, hc, hends, rfl⟩
  | idle | begins | stays => cases h

lemma rejection_of_error (h : s.read k line = .error r) : r.rejection.isSome := by
  rcases cases_of_error h with ⟨-, hrejection, -⟩ | ⟨_, _, _, _, -, -, rfl⟩
  · exact hrejection
  · rfl

lemma line_of_ok (h : s.read k line = .ok s') : s'.line = s.line + 1 := by
  have hmoves := moves k s line
  generalize hx : s.read k line = x at hmoves
  rw [hx] at h
  cases hmoves with
  | rejects => cases h
  | ends _ _ _ _ =>
    rcases readFeature_cases (k := k) _ line with ⟨-, hread⟩ | hread
    · rw [hread] at h
      cases h
      rfl
    · rw [hread] at h
      cases h
  | idle | begins | stays =>
    cases h
    rfl

lemma rejection_of_readSome {ls : List Text} (h : s.readSome k ls = .error r) :
    r.rejection.isSome := by
  induction ls generalizing s with
  | nil => cases h
  | cons line rest ih =>
    rw [ReaderState.readSome] at h
    cases hread : s.read k line with
    | ok s₁ =>
      rw [hread] at h
      exact ih h
    | error r₁ =>
      rw [hread] at h
      cases h
      exact rejection_of_error hread

lemma line_of_readSome {ls : List Text} (h : s.readSome k ls = .ok s') :
    s'.line = s.line + ls.length := by
  induction ls generalizing s with
  | nil =>
    cases h
    rfl
  | cons line rest ih =>
    rw [ReaderState.readSome] at h
    cases hread : s.read k line with
    | ok s₁ =>
      rw [hread] at h
      rw [ih h, line_of_ok hread, List.length_cons]
      omega
    | error r₁ =>
      rw [hread] at h
      cases h

end ReaderState

end FeatureDocs
