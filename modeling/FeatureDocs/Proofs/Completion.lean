import FeatureDocs.Keyword.Packaged
import FeatureDocs.Proofs.Blocks
import FeatureDocs.Proofs.Independence
import FeatureDocs.Proofs.Verdicts

/-!
# Documents that can be completed

Wherever the reader of lines is, some more lines make the document one that is accepted, if the
language has a line for each keyword that may be owed (`ReaderState.completes`). The packaged
languages have, so a document that ends too early is the beginning of one that is accepted
(`KeywordTable.parse_completes`).
-/

namespace FeatureDocs

/-! ### Lines for the keywords that are owed -/

namespace KeywordTable

/-- A line that begins with a keyword of a category, and is taken for nothing else behind a step of
which nothing is open. -/
structure Announces (k : KeywordTable) (line : Text) (c : Category) : Prop where
  keyword : k.Matches line c
  trimmed : Text.trim line = line
  unbroken : Text.dropBreaks line = line
  ne_nil : line ≠ []
  notConjunction : ¬ k.Matches line .conjunction
  notRow : ¬ DataTable.isRow line
  notMarker : line ≠ docStringMarker

instance (k : KeywordTable) (line : Text) (c : Category) : Decidable (k.Announces line c) :=
  decidable_of_iff
    (k.Matches line c ∧ Text.trim line = line ∧ Text.dropBreaks line = line ∧ line ≠ [] ∧
      ¬ k.Matches line .conjunction ∧ ¬ DataTable.isRow line ∧ line ≠ docStringMarker)
    ⟨fun ⟨h₁, h₂, h₃, h₄, h₅, h₆, h₇⟩ => ⟨h₁, h₂, h₃, h₄, h₅, h₆, h₇⟩,
      fun ⟨h₁, h₂, h₃, h₄, h₅, h₆, h₇⟩ => ⟨h₁, h₂, h₃, h₄, h₅, h₆, h₇⟩⟩

/-- The categories of the keywords that may be owed where a document ends too early. -/
def owed : List Category := [.feature, .context, .action, .outcome, .examples]

/-- A language with a line for every keyword that may be owed. -/
def Announcing (k : KeywordTable) : Prop := ∀ c ∈ owed, ∃ line, k.Announces line c

variable {k : KeywordTable} {line : Text} {c : Category}

lemma Announces.not_isBlank (h : k.Announces line c) : ¬ Text.isBlank line := by
  rw [← Text.trim_eq_nil_iff, h.trimmed]
  exact h.ne_nil

lemma Announces.matches_trim (h : k.Announces line c) : k.Matches (Text.trim line) c := by
  rw [h.trimmed]
  exact h.keyword

lemma Announces.trim_ne (h : k.Announces line c) : Text.trim line ≠ docStringMarker := by
  rw [h.trimmed]
  exact h.notMarker

/-- In the packaged languages the first keyword of a category is such a line. -/
lemma announces_packaged :
    ∀ e ∈ Dataset.packaged.languages, ∀ c ∈ owed,
      (ofEntry e.1 e.2).Announces (((ofEntry e.1 e.2).candidates c).headD []) c := by
  decide +kernel

/-- Every packaged language announces each kind of line that can be owed. -/
lemma announcing_of_select {language : Text} (h : select Dataset.packaged language = .ok k) :
    k.Announcing := by
  obtain ⟨e, he, rfl⟩ := exists_entry_of_select h
  intro c hc
  exact ⟨_, announces_packaged e he c hc⟩

end KeywordTable

/-! ### Indentations are blank -/

/-- The indentation of a doc string that is open is blank. -/
def Attachment.Indented : Attachment → Prop
  | .docString _ indentation _ => Text.isBlank indentation
  | _ => True

namespace OpenStep

variable {s s' : OpenStep} {t : Option DataTable} {line : Text}

lemma indented_offerMarker (h : s.offerMarker t line = .taken s') : s'.attachment.Indented := by
  simp only [offerMarker] at h
  split_ifs at h
  cases h
  exact Text.isBlank_iff.mpr fun c hc => List.mem_takeWhile_imp hc

/-- What an open step takes leaves the lines of its doc string indented. -/
lemma indented_offer (hs : s.attachment.Indented) (h : s.offer line = .taken s') :
    s'.attachment.Indented := by
  cases ha : s.attachment with
  | bare =>
    simp only [offer, ha] at h
    split_ifs at h
    · cases h
      exact hs
    · cases h
      trivial
    · exact indented_offerMarker h
  | table t =>
    cases hrow : t.addRow (DataTable.cells line) with
    | ok t' =>
      simp only [offer, ha, hrow] at h
      split_ifs at h
      · cases h
        trivial
      · cases h
        trivial
      · exact indented_offerMarker h
    | error e =>
      simp only [offer, ha, hrow] at h
      split_ifs at h
      · cases h
        trivial
      · exact indented_offerMarker h
  | afterTable t =>
    simp only [offer, ha] at h
    split_ifs at h
    · cases h
      exact hs
    · exact indented_offerMarker h
  | docString t indentation body =>
    simp only [offer, ha] at h
    split_ifs at h
    · cases h
      trivial
    · cases h
      rwa [ha] at hs
  | afterDocString t text =>
    simp only [offer, ha] at h
    split_ifs at h
    cases h
    exact hs

end OpenStep

namespace ReaderState

variable {k : KeywordTable} {s s' : ReaderState} {f : OpenFeature} {p : Place} {b : Block}
  {step : OpenStep} {line : Text}

/-- Where the reader is at a step, its indentation is blank. -/
def Indented (s : ReaderState) : Prop :=
  ∀ f b step, s.current = some (f, .step b step) → step.attachment.Indented

/-- The indentation stays blank. -/
lemma indented_readSome {ls : List Text} (hs : s.Indented) (h : s.readSome k ls = .ok s') :
    s'.Indented :=
  atStep_readSome (P := fun step => step.attachment.Indented) hs h (fun _ _ _ _ _ => trivial)
    fun _ _ _ => OpenStep.indented_offer

/-! ### More lines -/

/-- Some more lines, which all keep what they end in, make an accepted document. -/
def Completes (k : KeywordTable) (s : ReaderState) : Prop :=
  ∃ more, more.map Text.dropBreaks = more ∧ (s.readAll k more).rejection = none

lemma completes_of_finish (h : s.finish.rejection = none) : Completes k s := ⟨[], rfl, h⟩

/-- What can be completed behind one more line can be completed. -/
lemma completes_of_read (hline : Text.dropBreaks line = line) (h : s.read k line = .ok s')
    (hs' : Completes k s') : Completes k s := by
  obtain ⟨more, hmore, haccepted⟩ := hs'
  refine ⟨line :: more, ?_, ?_⟩
  · rw [List.map_cons, hline, hmore]
  · rw [ReaderState.readAll, h]
    exact haccepted

lemma completes_body (hc : s.current = some (f, .body)) : Completes k s := by
  apply completes_of_finish
  rw [finish_of_ends (.body f) hc]
  rfl

/-- The examples of an outline need a table. -/
lemma completes_examples (hc : s.current = some (f, .examples b)) : Completes k s := by
  obtain ⟨row, hrow, hunbroken⟩ :
      ∃ row : Text, DataTable.isRow row ∧ Text.dropBreaks row = row := ⟨"|", by decide, by decide⟩
  have hblank : ¬ Text.isBlank row := fun h => not_isRow_of_isBlank h hrow
  have hread : s.read k row =
      .ok (s.advance.goto f (.examplesTable b { header := DataTable.cells row })) := by
    simp [ReaderState.read, hc, hblank, hrow]
  apply completes_of_read hunbroken hread
  apply completes_of_finish
  rw [finish_of_ends (.examples f b _) rfl]
  rfl

/-- A keyword closes a step of which nothing is open. -/
lemma read_announces {c : Category} (hc : s.current = some (f, .step b step))
    (hclosed : step.attachment.Closed) (hl : k.Announces line c) :
    s.read k line = s.advance.readAfterStep k f (b.addStep step.close) step.kind line := by
  have hblank := hl.not_isBlank
  have hrow := hl.notRow
  have hmarker := hl.trim_ne
  have hpassed : step.offer line = .passed := by
    cases ha : step.attachment with
    | docString => simp [Attachment.Closed, ha] at hclosed
    | _ => simp [OpenStep.offer, OpenStep.offerMarker, ha, hblank, hrow, hmarker]
  simp [ReaderState.read, hc, hpassed]

/-- The first step of the next section. -/
lemma completes_next {kind : StepKind} (hk : k.Announcing) (hc : s.current = some (f, .step b step))
    (hclosed : step.attachment.Closed) (hnext : b.role.next? step.kind = some kind)
    (howed : kind.category ∈ KeywordTable.owed)
    (hs' : ∀ s' b' text line, b'.role = b.role →
      s'.current = some (f, .step b' { kind, text, line }) → Completes k s') :
    Completes k s := by
  obtain ⟨line, hl⟩ := hk kind.category howed
  have hnext' : (b.addStep step.close).role.next? step.kind = some kind := hnext
  have hread := read_announces hc hclosed hl
  simp only [ReaderState.readAfterStep, hl.notConjunction, if_false, hnext', ReaderState.readStep,
    hl.matches_trim, if_true] at hread
  exact completes_of_read hl.unbroken hread (hs' _ (b.addStep step.close) _ _ rfl rfl)

/-- A background needs a line behind it. -/
lemma completes_background (hk : k.Announcing) (hc : s.current = some (f, .step b step))
    (hclosed : step.attachment.Closed) (hrole : b.role = .background) : Completes k s := by
  obtain ⟨line, hl⟩ := hk .feature (by decide)
  have hrole' : (b.addStep step.close).role = .background := hrole
  have hread := read_announces hc hclosed hl
  simp only [ReaderState.readAfterStep, hl.notConjunction, if_false, hrole', Role.next?,
    ReaderState.readBody, hl.keyword, if_true, ReaderState.readFeature, hl.matches_trim] at hread
  exact completes_of_read hl.unbroken hread (completes_body rfl)

/-- Behind an outcome an outline owes its examples, and a scenario nothing. -/
lemma completes_outcome (hk : k.Announcing) (hc : s.current = some (f, .step b step))
    (hclosed : step.attachment.Closed) (hkind : step.kind = .outcome) : Completes k s := by
  cases hrole : b.role with
  | background => exact completes_background hk hc hclosed hrole
  | scenario =>
    apply completes_of_finish
    rw [finish_of_ends (.scenario hrole hkind hclosed) hc]
    rfl
  | outline =>
    obtain ⟨line, hl⟩ := hk .examples (by decide)
    have hrole' : (b.addStep step.close).role = .outline := hrole
    have hread := read_announces hc hclosed hl
    simp only [ReaderState.readAfterStep, hl.notConjunction, if_false, hrole', hkind, Role.next?,
      ReaderState.readExamples, hl.matches_trim, if_true] at hread
    exact completes_of_read hl.unbroken hread (completes_examples rfl)

/-- Behind an action an outcome is owed. -/
lemma completes_action (hk : k.Announcing) (hc : s.current = some (f, .step b step))
    (hclosed : step.attachment.Closed) (hkind : step.kind = .action) : Completes k s := by
  by_cases hrole : b.role = .background
  · exact completes_background hk hc hclosed hrole
  · have hnext : b.role.next? step.kind = some .outcome := by
      rw [hkind]
      cases hr : b.role <;> simp_all [Role.next?]
    refine completes_next hk hc hclosed hnext (by decide) fun s' b' text line _ hc' => ?_
    exact completes_outcome hk hc' trivial rfl

/-- A step of which nothing is open. -/
lemma completes_closed (hk : k.Announcing) (hc : s.current = some (f, .step b step))
    (hclosed : step.attachment.Closed) : Completes k s := by
  by_cases hrole : b.role = .background
  · exact completes_background hk hc hclosed hrole
  · cases hkind : step.kind with
    | outcome => exact completes_outcome hk hc hclosed hkind
    | action => exact completes_action hk hc hclosed hkind
    | context =>
      have hnext : b.role.next? step.kind = some .action := by
        rw [hkind]
        exact (Role.next?_of_ne hrole).1
      refine completes_next hk hc hclosed hnext (by decide) fun s' b' text line _ hc' => ?_
      exact completes_action hk hc' trivial rfl

/-- A doc string that is open needs its closing marker. -/
lemma completes_step (hk : k.Announcing) (hc : s.current = some (f, .step b step))
    (hindented : step.attachment.Indented) : Completes k s := by
  cases ha : step.attachment with
  | docString t indentation body =>
    rw [ha] at hindented
    have hmarker : Text.trim (indentation ++ docStringMarker) = docStringMarker :=
      trim_eq_marker_iff.mpr ⟨indentation, [], hindented, rfl, by rw [List.append_nil]⟩
    have hread : s.read k (indentation ++ docStringMarker) =
        .ok (s.advance.goto f (.step b
          { step with attachment := .afterDocString t (Text.join "\n" body.reverse) })) := by
      simp [ReaderState.read, hc, OpenStep.offer, ha, hmarker]
    refine completes_of_read ?_ hread (completes_closed hk rfl trivial)
    simp [Text.dropBreaks, docStringMarker, Text.isBreakChar]
  | _ => exact completes_closed hk hc (by simp [Attachment.Closed, ha])

/-- At every place. -/
lemma completes (hk : k.Announcing) (hs : s.Indented) : Completes k s := by
  rcases hc : s.current with _ | ⟨f, p⟩
  · apply completes_of_finish
    simp [ReaderState.finish, hc]
  · cases p with
    | body => exact completes_body hc
    | head b =>
      obtain ⟨line, hl⟩ := hk .context (by decide)
      have hread : s.read k line = s.advance.readStep k f b .context line := by
        simp [ReaderState.read, hc, hl.not_isBlank]
      have hcategory : k.Matches (Text.trim line) StepKind.context.category := hl.matches_trim
      simp only [ReaderState.readStep, hcategory, if_true] at hread
      exact completes_of_read hl.unbroken hread (completes_closed hk rfl trivial)
    | step b step => exact completes_step hk hc (hs f b step hc)
    | examples b => exact completes_examples hc
    | examplesTable b t =>
      apply completes_of_finish
      rw [finish_of_ends (.examples f b t) hc]
      rfl

end ReaderState

/-! ### Documents that end too early -/

/-- A document that ends too early has been read to its end, with the features that are complete. -/
lemma KeywordTable.read_of_endOfInput {k : KeywordTable} {ls : List Text}
    (h : (k.read ls).rejection = some .endOfInput) :
    ∃ s, ReaderState.readSome k {} ls = .ok s ∧ (k.read ls).features = s.features.reverse := by
  rcases ReaderState.readAll_cases k {} ls with
    ⟨s, hs, hfinish⟩ | ⟨before, line, rest, s, rfl, hs, hread⟩
  · refine ⟨s, hs, ?_⟩
    have hread : k.read ls = s.finish := hfinish
    rw [hread] at h ⊢
    rcases ReaderState.finish_cases s with ⟨hfeatures, -⟩ | ⟨f, p, g, -, -, hends⟩
    · exact hfeatures
    · rw [hends] at h
      cases h
  · have hr : (ReaderState.readAll k {} (before ++ line :: rest)).rejection = some .endOfInput := h
    rcases ReaderState.verdict_cases hread with ⟨fault, hfault, -⟩ | ⟨-, heq⟩
    · rw [hr] at hfault
      cases hfault
    · rw [heq] at hr
      cases hr

/-- In a packaged language, a document that ends too early can be completed: with some more lines it
is accepted, and its features are those that were complete before and perhaps more. -/
theorem KeywordTable.parse_completes (language : Text) (k : KeywordTable)
    (hk : select Dataset.packaged language = .ok k) (resolver : Option Resolver) (source : Text)
    (ls : List Text)
    (h : (k.parse resolver (.lines ls) source).outcome.rejection = some .endOfInput) :
    ∃ more,
      (k.parse resolver (.lines (ls ++ more)) source).outcome.ok ∧
        (k.parse resolver (.lines ls) source).outcome.features <+:
          (k.parse resolver (.lines (ls ++ more)) source).outcome.features := by
  obtain ⟨s, hs, hfeatures⟩ := read_of_endOfInput h
  have hindented : s.Indented :=
    ReaderState.indented_readSome (by rintro f b step ⟨⟩) hs
  -- the state behind the given lines is completed, and the features it has are kept
  obtain ⟨more, hmore, haccepted⟩ := ReaderState.completes (announcing_of_select hk) hindented
  obtain ⟨new, hnew⟩ := ReaderState.features_readAll (k := k) more s
  have hlines : (Source.lines (ls ++ more)).toLines = (Source.lines ls).toLines ++ more := by
    simp only [Source.toLines, List.map_append, hmore]
  have hread : k.read (Source.lines (ls ++ more)).toLines = s.readAll k more := by
    rw [hlines, k.read_append, hs]
  refine ⟨more, ?_, ?_⟩
  · rw [Outcome.ok, parse_rejection, hread, haccepted]
    rfl
  · simp only [parse, Reading.parsing, hread, hnew, hfeatures, List.mapIdx_append]
    exact List.prefix_append _ _

/-- A feature that is complete, and one that ends in a doc string of its background. -/
theorem KeywordTable.parse_completes_french :
    let k := ofEntry "fr" Dataset.french
    let ls : List Text :=
      ["Fonctionnalité: A", "Fonctionnalité: B", "Contexte:", "Soit c", "\t\"\"\"", "\td"]
    select Dataset.packaged "fr" = .ok k ∧
      (k.parse none (.lines ls) []).outcome.rejection = some .endOfInput ∧
      ∃ more,
        (k.parse none (.lines (ls ++ more)) []).outcome.ok ∧
          (k.parse none (.lines ls) []).outcome.features <+:
            (k.parse none (.lines (ls ++ more)) []).outcome.features := by
  intro k ls
  have hselect : select Dataset.packaged "fr" = .ok k := by rfl
  have hrejection : (k.parse none (.lines ls) []).outcome.rejection = some .endOfInput := by rfl
  exact ⟨hselect, hrejection, parse_completes "fr" k hselect none [] ls hrejection⟩

end FeatureDocs
