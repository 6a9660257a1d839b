import FeatureDocs.Proofs.Pieces
import FeatureDocs.Proofs.WellFormed
import FeatureDocs.Report.Summary
import Mathlib.Data.List.Perm.Basic

/-!
# Reports for readers

A report can be read without the features it is about. Its empty lines cut it into paragraphs, and
the first characters of a line tell what the line is about (`Report.Entry.read?`). Read like that, a
report has a heading, one paragraph for each feature that lists in order what the feature has, and
one for the rejected documents if there are any (`Summary.render_text_reads`). The numbers in the
heading are those of the lines of each kind unless an outline stands among the scenarios of a
feature: it is told as an outline and counted as a scenario (`Summary.countLine_misplaced`). No
outline that was read from a document stands there (`Summary.misplaced_eq_nil`).
-/

namespace FeatureDocs

namespace Report

/-! ### Lines -/

/-- What a line of a paragraph is about. -/
inductive Kind
  | feature
  | background
  | scenario
  | outline
  | step (kind : StepKind)
  | examples
  deriving DecidableEq

namespace Kind

/-- All kinds. -/
def all : List Kind :=
  [.feature, .background, .scenario, .outline, .step .context, .step .action, .step .outcome,
    .examples]

lemma mem_all (kind : Kind) : kind ∈ all := by
  cases kind with
  | step kind => cases kind <;> decide
  | _ => decide

/-- How a line of a kind begins. -/
def mark : Kind → Text
  | .feature => "Feature: "
  | .background => "  Background ("
  | .scenario => "  Scenario: "
  | .outline => "  Scenario Outline: "
  | .step .context => "    Given "
  | .step .action => "    When "
  | .step .outcome => "    Then "
  | .examples => "    Examples: "

/-- No mark begins with another one. -/
lemma eq_of_mark_prefix {kind kind' : Kind} (h : kind.mark <+: kind'.mark) : kind = kind' := by
  have hall : ∀ a ∈ all, ∀ b ∈ all, a.mark.isPrefixOf b.mark → a = b := by decide +kernel
  exact hall kind kind.mem_all kind' kind'.mem_all (List.isPrefixOf_iff_prefix.mpr h)

lemma mark_step (kind : StepKind) :
    (Kind.step kind).mark = "    " ++ kind.category.name ++ " " := by
  cases kind <;> rfl

/-- A line about a step. -/
def isStep : Kind → Bool
  | .step _ => true
  | _ => false

end Kind

/-- What a line tells: its kind, and what stands behind the mark. -/
structure Entry where
  kind : Kind
  text : Text
  deriving DecidableEq

namespace Entry

/-- The line that tells an entry. -/
def line (e : Entry) : Text := e.kind.mark ++ e.text

/-- What a line tells, if it begins with a mark. -/
def read? (line : Text) : Option Entry :=
  (Kind.all.find? fun kind => kind.mark.isPrefixOf line).map fun kind =>
    ⟨kind, line.drop kind.mark.length⟩

/-- A printed line is read as the entry it was printed for. -/
lemma read?_line (e : Entry) : read? e.line = some e := by
  have hmark : e.kind.mark <+: e.line := List.prefix_append _ _
  have hsome : (Kind.all.find? fun kind => kind.mark.isPrefixOf e.line).isSome :=
    List.find?_isSome.mpr ⟨e.kind, e.kind.mem_all, List.isPrefixOf_iff_prefix.mpr hmark⟩
  obtain ⟨kind, hfind⟩ := Option.isSome_iff_exists.mp hsome
  have hmark' : kind.mark.isPrefixOf e.line := by
    have h := List.find?_some hfind
    exact h
  obtain rfl : e.kind = kind := by
    rcases List.prefix_or_prefix_of_prefix hmark (List.isPrefixOf_iff_prefix.mp hmark') with h | h
    · exact Kind.eq_of_mark_prefix h
    · exact (Kind.eq_of_mark_prefix h).symm
  rw [read?, hfind, Option.map_some, line, List.drop_left]

end Entry

/-! ### Paragraphs -/

/-- The lines of a report, cut at the empty ones. -/
def paragraphs (report : Text) : List (List Text) :=
  List.splitOn [] (Source.document report).toLines

/-- The number of lines of some kinds. -/
def count (kinds : Kind → Bool) (paragraphs : List (List Text)) : Nat :=
  paragraphs.flatten.countP fun line => (Entry.read? line).any (kinds ·.kind)

/-- How many features, scenarios, outlines and steps there are. -/
structure Counts where
  features : Nat
  scenarios : Nat
  outlines : Nat
  steps : Nat
  deriving DecidableEq

namespace Counts

/-- The line that says how many there are. -/
def line (c : Counts) : Text :=
  Text.ofNat c.features ++ " features, " ++ Text.ofNat c.scenarios ++ " scenarios, " ++
    Text.ofNat c.outlines ++ " outlines, " ++ Text.ofNat c.steps ++ " steps"

/-- A number that is written in front of a word can be read. -/
lemma ofNat_append_inj {m n : Nat} {word rest rest' : Text} (hword : word ≠ [])
    (hdigits : Json.EndsDigits word)
    (h : Text.ofNat m ++ word ++ rest = Text.ofNat n ++ word ++ rest') : m = n ∧ rest = rest' := by
  have hends : ∀ rest, Json.EndsDigits (word ++ rest) := by
    intro rest c hc
    rw [List.head?_append_of_ne_nil _ hword] at hc
    exact hdigits c hc
  rw [List.append_assoc, List.append_assoc] at h
  have hread := congrArg Json.readDigits? h
  rw [Json.readDigits?_ofNat m (hends rest), Json.readDigits?_ofNat n (hends rest')] at hread
  obtain ⟨hnumber, hrest⟩ := Prod.mk.inj (Option.some.inj hread)
  constructor
  · rw [← Json.ofDigits_ofNat m, hnumber, Json.ofDigits_ofNat]
  · exact List.append_cancel_left hrest

/-- The line says all of it. -/
lemma line_injective : Function.Injective line := by
  intro c d h
  simp only [line, List.append_assoc] at h
  simp only [← List.append_assoc (Text.ofNat _)] at h
  obtain ⟨hfeatures, h⟩ := ofNat_append_inj (by decide) (by simp [Json.EndsDigits]) h
  obtain ⟨hscenarios, h⟩ := ofNat_append_inj (by decide) (by simp [Json.EndsDigits]) h
  obtain ⟨houtlines, h⟩ := ofNat_append_inj (by decide) (by simp [Json.EndsDigits]) h
  have hsteps := congrArg Json.ofDigits (List.append_cancel_right h)
  rw [Json.ofDigits_ofNat, Json.ofDigits_ofNat] at hsteps
  cases c
  cases d
  simp_all

end Counts

/-- How many features, scenarios, outlines and steps some paragraphs tell. -/
def counts (paragraphs : List (List Text)) : Counts where
  features := count (· = .feature) paragraphs
  scenarios := count (· = .scenario) paragraphs
  outlines := count (· = .outline) paragraphs
  steps := count Kind.isStep paragraphs

end Report

/-! ### What a report has to tell -/

/-- The words for what is attached to a step. -/
def Step.remarks (s : Step) : List Text :=
  (s.table.map fun t => "  (" ++ Text.ofNat t.rows.length ++ " table rows)").toList ++
    (s.docString.map fun _ => ("  (doc string)" : Text)).toList

/-- A step is told by its text, and by a word for all that is attached to it. -/
def Step.entry (s : Step) : Report.Entry := ⟨.step s.kind, s.text ++ s.remarks.flatten⟩

/-- The kind of the line that begins a scenario or an outline. -/
def Member.kind : Member → Report.Kind
  | .scenario _ => .scenario
  | .outline _ => .outline

/-- The examples of an outline. -/
def Member.examples : Member → Option DataTable
  | .scenario _ => none
  | .outline o => o.examples

/-- A scenario or an outline is told by its name, its steps in order, and the number of its
examples. -/
def Member.entries (m : Member) : List Report.Entry :=
  ⟨m.kind, m.toScenario.name⟩ :: m.toScenario.steps.map Step.entry ++
    (m.examples.map fun t => ⟨.examples, Text.ofNat t.rows.length ++ " rows"⟩).toList

/-- A feature is told by its name and place, the number of steps of its background, and its
scenarios and outlines in order. -/
def Feature.entries (f : Feature) : List Report.Entry :=
  ⟨.feature, f.name ++ (if f.file = [] then [] else "  [" ++ f.file ++ "]" : Text)⟩ ::
    (f.background.map fun b =>
      ⟨.background, Text.ofNat b.toScenario.steps.length ++ " steps)"⟩).toList ++
    f.members.flatMap Member.entries

/-! ### The lines of a feature -/

namespace Summary

open Report

lemma stepLine_eq (s : Step) : stepLine s = s.entry.line := by
  delta stepLine
  rw [Step.entry, Entry.line, Kind.mark_step, Step.remarks]
  cases s.table <;> cases s.docString <;> simp

lemma map_stepLine (steps : List Step) :
    steps.map stepLine = (steps.map Step.entry).map Entry.line := by
  rw [List.map_map]
  exact List.map_congr_left fun s _ => stepLine_eq s

lemma memberLines_eq (m : Member) : memberLines m = m.entries.map Entry.line := by
  rw [Member.entries, List.map_append, List.map_cons, ← map_stepLine]
  cases m with
  | scenario s => exact (List.append_nil _).symm
  | outline o =>
    obtain ⟨s, examples⟩ := o
    cases examples <;> rfl

lemma featureLines_eq (f : Feature) : featureLines f = f.entries.map Entry.line := by
  have hmembers : f.members.flatMap memberLines =
      (f.members.flatMap Member.entries).map Entry.line := by
    rw [List.map_flatMap]
    exact congrArg (f.members.flatMap ·) (funext memberLines_eq)
  rw [featureLines, hmembers, Feature.entries, List.map_append, List.map_cons]
  congr 2
  · simp only [List.isEmpty_iff, List.append_assoc]
    rfl
  · cases f.background <;> rfl

end Summary

/-! ### Counting -/

section Counting

open Report

variable {kinds : Kind → Bool}

/-- Of what is told of a scenario or an outline, its examples are not counted. -/
lemma Member.countP_entries (hexamples : ¬ kinds .examples) (m : Member) :
    m.entries.countP (kinds ·.kind) =
      m.toScenario.steps.countP (kinds <| .step ·.kind) + if kinds m.kind then 1 else 0 := by
  have hrows : (m.examples.map fun t =>
      (⟨.examples, Text.ofNat t.rows.length ++ " rows"⟩ : Entry)).toList.countP (kinds ·.kind) =
        0 := by
    cases m.examples with
    | none => rfl
    | some t => simp [hexamples]
  rw [Member.entries, List.countP_append, hrows, List.countP_cons, List.countP_map]
  rfl

/-- The entries of scenarios and outlines are their headers and their steps. -/
lemma Report.countP_members (hexamples : ¬ kinds .examples) (ms : List Member) :
    (ms.flatMap Member.entries).countP (kinds ·.kind) =
      ms.countP (kinds ·.kind) +
        (ms.flatMap (·.toScenario.steps)).countP (kinds <| .step ·.kind) := by
  induction ms with
  | nil => rfl
  | cons m ms ih =>
    rw [List.flatMap_cons, List.countP_append, ih, m.countP_entries hexamples, List.countP_cons,
      List.flatMap_cons, List.countP_append]
    omega

/-- Of what is told of a feature, its background is not counted. -/
lemma Report.countP_features (hbackground : ¬ kinds .background) (features : List Feature) :
    (features.flatMap Feature.entries).countP (kinds ·.kind) =
      (if kinds .feature then features.length else 0) +
        ((features.flatMap (·.members)).flatMap Member.entries).countP (kinds ·.kind) := by
  induction features with
  | nil => simp
  | cons f features ih =>
    have hsteps : (f.background.map fun b =>
        (⟨.background, Text.ofNat b.toScenario.steps.length ++ " steps)"⟩ : Entry)).toList.countP
          (kinds ·.kind) = 0 := by
      cases f.background with
      | none => rfl
      | some b => simp [hbackground]
    rw [List.flatMap_cons, List.countP_append, ih, Feature.entries, List.countP_append,
      List.countP_cons, hsteps, List.flatMap_cons, List.flatMap_append, List.countP_append,
      List.length_cons]
    cases kinds .feature <;> simp only [Bool.false_eq_true, if_true, if_false] <;> omega

namespace Summary

/-- The scenarios and outlines of all features, those of the lists of outlines last. -/
def members (s : Summary) : List Member := s.scenarios ++ s.outlines.map Member.outline

/-- The outlines that stand among the scenarios of their features. -/
def misplaced (s : Summary) : List Member := s.scenarios.filter Member.isOutline

/-- The order of scenarios and outlines does not count. -/
lemma members_perm (s : Summary) : (s.features.flatMap (·.members)).Perm s.members := by
  have hsorted := List.Perm.flatMap_left s.features fun f _ => f.members_perm
  refine hsorted.trans ?_
  rw [members, scenarios, outlines, List.map_flatMap]
  exact (List.flatMap_append_perm s.features _ _).symm

/-- Among the members are the plain scenarios, which are all but those that are misplaced. -/
lemma countP_scenario_members (s : Summary) :
    s.members.countP (·.kind = .scenario) + s.misplaced.length = s.scenarios.length := by
  have hplain : ∀ m : Member, (m.kind = .scenario) ↔ ¬ m.isOutline := by
    intro m
    cases m <;> simp [Member.kind, Member.isOutline]
  have houtlines : (s.outlines.map Member.outline).countP (·.kind = .scenario) = 0 := by
    simp [List.countP_eq_zero, Member.kind]
  rw [members, List.countP_append, houtlines, Nat.add_zero, misplaced,
    ← List.countP_eq_length_filter, Nat.add_comm,
    List.length_eq_countP_add_countP Member.isOutline (l := s.scenarios)]
  simp [hplain]

/-- Among the members are the outlines of both lists. -/
lemma countP_outline_members (s : Summary) :
    s.members.countP (·.kind = .outline) = s.outlines.length + s.misplaced.length := by
  have hscenarios : s.scenarios.countP (·.kind = .outline) = s.misplaced.length := by
    rw [misplaced, ← List.countP_eq_length_filter]
    refine List.countP_congr fun m _ => ?_
    cases m <;> simp [Member.kind, Member.isOutline]
  have houtlines :
      (s.outlines.map Member.outline).countP (·.kind = .outline) = s.outlines.length := by
    rw [List.countP_map, List.countP_eq_length.mpr (by simp [Member.kind])]
  rw [members, List.countP_append, hscenarios, houtlines, Nat.add_comm]

end Summary

/-- The lines that tell entries are counted as those entries. -/
lemma Report.count_map_line (blocks : List (List Entry)) :
    count kinds (blocks.map (·.map Entry.line)) = blocks.flatten.countP (kinds ·.kind) := by
  rw [count, ← List.map_flatten, List.countP_map]
  refine List.countP_congr fun e _ => ?_
  simp [Entry.read?_line]

/-- The paragraphs about some features. -/
def Report.blocks (features : List Feature) : List (List Text) :=
  features.map fun f => f.entries.map Entry.line

/-- What the printed features count, by kinds that no feature repeats. -/
lemma Summary.count_blocks (hbackground : ¬ kinds .background) (hexamples : ¬ kinds .examples)
    (s : Summary) :
    count kinds (blocks s.features) =
      (if kinds .feature then s.features.length else 0) +
        (s.members.countP (kinds ·.kind) + s.steps.countP (kinds <| .step ·.kind)) := by
  have hblocks : blocks s.features = (s.features.map Feature.entries).map (·.map Entry.line) := by
    rw [List.map_map]
    rfl
  rw [hblocks, count_map_line, ← List.flatMap_def, countP_features hbackground,
    (s.members_perm.flatMap_right _).countP_eq, countP_members hexamples]
  rfl

/-- The numbers in a heading. -/
def Summary.counts (s : Summary) : Counts :=
  ⟨s.features.length, s.scenarios.length, s.outlines.length, s.steps.length⟩

/-- The lines that tell a summary are those that it counts, but each misplaced outline is told as an
outline and counted as a scenario. -/
structure Summary.Counted (s : Summary) (told : Counts) : Prop where
  features : told.features = s.counts.features
  scenarios : told.scenarios + s.misplaced.length = s.counts.scenarios
  outlines : told.outlines = s.counts.outlines + s.misplaced.length
  steps : told.steps = s.counts.steps

/-- The numbers read off the printed features, as far as the summary fixes them. -/
lemma Summary.counted_blocks (s : Summary) : s.Counted (Report.counts (blocks s.features)) := by
  -- no scenario and no outline counts as a feature or as a step
  have hfeature : s.members.countP (·.kind = .feature) = 0 := by
    rw [List.countP_eq_zero]
    rintro (_ | _) - <;> simp [Member.kind]
  have hstep : s.members.countP (Kind.isStep ·.kind) = 0 := by
    rw [List.countP_eq_zero]
    rintro (_ | _) - <;> simp [Member.kind, Kind.isStep]
  constructor
  case features =>
    show count (· = .feature) (blocks s.features) = s.features.length
    rw [count_blocks (by decide) (by decide), hfeature]
    simp
  case scenarios =>
    show count (· = .scenario) (blocks s.features) + s.misplaced.length = s.scenarios.length
    rw [count_blocks (by decide) (by decide), ← s.countP_scenario_members]
    simp
  case outlines =>
    show count (· = .outline) (blocks s.features) = s.outlines.length + s.misplaced.length
    rw [count_blocks (by decide) (by decide), ← s.countP_outline_members]
    simp
  case steps =>
    show count Kind.isStep (blocks s.features) = s.steps.length
    rw [count_blocks (by decide) (by decide), hstep]
    simp [Kind.isStep]

/-- The numbers are those of the lines just if no outline is misplaced. -/
lemma Summary.Counted.line_eq_iff {s : Summary} {told : Counts} (h : s.Counted told) :
    s.counts.line = told.line ↔ s.misplaced = [] := by
  rw [Counts.line_injective.eq_iff, ← List.length_eq_zero_iff]
  constructor
  · intro heq
    have houtlines := h.outlines
    rw [← heq] at houtlines
    omega
  · intro hnone
    obtain ⟨hfeatures, hscenarios, houtlines, hsteps⟩ := h
    rw [hnone] at hscenarios houtlines
    cases told
    simp_all [counts]

end Counting

/-! ### What is told is unbroken -/

/-- No text that a report of a summary shows has a line break. -/
structure Summary.Unbroken (s : Summary) : Prop where
  label : s.label.Unbroken
  names : ∀ f ∈ s.features, f.name.Unbroken
  files : ∀ f ∈ s.features, f.file.Unbroken
  scenarios : ∀ f ∈ s.features, ∀ m ∈ f.scenarios ++ f.outlines.map Member.outline,
    m.toScenario.name.Unbroken ∧ ∀ step ∈ m.toScenario.steps, step.text.Unbroken
  sources : ∀ o ∈ s.failures, o.source.Unbroken

/-- A feature that was read from a document. -/
def Feature.IsRead (f : Feature) (document : Source) : Prop :=
  ∃ k resolver source, f ∈ (KeywordTable.parse k resolver document source).outcome.features

/-- The name of a member is one of the texts of its feature, and so are those of its steps. -/
lemma Feature.pieces_of_mem {f : Feature} {m : Member}
    (h : m ∈ f.scenarios ++ f.outlines.map Member.outline) :
    ∀ p ∈ m.toScenario.pieces, p ∈ f.pieces := by
  intro p hp
  refine List.mem_append_right _ (List.mem_flatMap.mpr ⟨m, List.mem_append_right _ h, ?_⟩)
  cases m with
  | scenario s => exact hp
  | outline o => exact List.mem_append_left _ hp

namespace Summary

/-- Features that were read from unbroken lines can be reported, whatever else their texts are. -/
lemma Unbroken.of_isRead {s : Summary} (hlabel : s.label.Unbroken)
    (hfiles : ∀ f ∈ s.features, f.file.Unbroken) (hsources : ∀ o ∈ s.failures, o.source.Unbroken)
    (hread : ∀ f ∈ s.features, ∃ document, f.IsRead document ∧ document.BreaksAtEnds) :
    s.Unbroken := by
  have htext : ∀ f ∈ s.features, ∀ t, .text t ∈ f.pieces → Text.Unbroken t := by
    intro f hf t ht
    obtain ⟨document, ⟨k, resolver, source, hmem⟩, hends⟩ := hread f hf
    have hdrawn := k.parse_drawn resolver document source f hmem _ ht
    exact hdrawn.lineByLine (document.forall_unbroken_iff.mpr hends)
  refine ⟨hlabel, fun f hf => htext f hf _ List.mem_cons_self, hfiles, ?_, hsources⟩
  intro f hf m hm
  constructor
  · exact htext f hf _ (Feature.pieces_of_mem hm _ List.mem_cons_self)
  · intro step hstep
    refine htext f hf _ (Feature.pieces_of_mem hm _ (List.mem_cons_of_mem _ ?_))
    exact List.mem_flatMap.mpr ⟨step, hstep, List.mem_cons_self⟩

/-- No outline that was read from a document stands among the scenarios of its feature. -/
lemma misplaced_eq_nil {s : Summary}
    (hread : ∀ f ∈ s.features, ∃ document, f.IsRead document) : s.misplaced = [] := by
  rw [misplaced, List.filter_eq_nil_iff]
  intro m hm
  obtain ⟨f, hf, hm⟩ := List.mem_flatMap.mp hm
  obtain ⟨document, k, resolver, source, hmem⟩ := hread f hf
  obtain ⟨scenario, rfl, -⟩ :=
    (k.parse_wellFormed resolver document source f hmem).scenarios m hm
  exact Bool.false_ne_true

end Summary

namespace Report

lemma Entry.unbroken_line {e : Entry} (h : e.text.Unbroken) : e.line.Unbroken := by
  refine Text.unbroken_append.mpr ⟨?_, h⟩
  have hmarks : ∀ kind ∈ Kind.all, kind.mark.Unbroken := by decide +kernel
  exact hmarks e.kind e.kind.mem_all

lemma Entry.line_ne_nil (e : Entry) : e.line ≠ [] := by
  have hmarks : ∀ kind ∈ Kind.all, kind.mark ≠ [] := by decide +kernel
  exact List.append_ne_nil_of_left_ne_nil (hmarks e.kind e.kind.mem_all) e.text

end Report

lemma Step.unbroken_entry {s : Step} (h : s.text.Unbroken) : s.entry.text.Unbroken := by
  refine Text.unbroken_append.mpr ⟨h, Text.unbroken_flatten.mpr fun r hr => ?_⟩
  rcases List.mem_append.mp hr with hr | hr
  · obtain ⟨t, -, rfl⟩ := Option.map_eq_some_iff.mp (Option.mem_toList.mp hr)
    simp only [Text.unbroken_append, Text.unbroken_ofNat, and_true]
    decide
  · obtain ⟨t, -, rfl⟩ := Option.map_eq_some_iff.mp (Option.mem_toList.mp hr)
    decide

lemma Member.unbroken_entries {m : Member} (hname : m.toScenario.name.Unbroken)
    (hsteps : ∀ step ∈ m.toScenario.steps, step.text.Unbroken) :
    ∀ e ∈ m.entries, e.text.Unbroken := by
  intro e he
  rcases List.mem_append.mp he with he | he
  · rcases List.mem_cons.mp he with rfl | he
    · exact hname
    · obtain ⟨step, hstep, rfl⟩ := List.mem_map.mp he
      exact Step.unbroken_entry (hsteps step hstep)
  · obtain ⟨t, -, rfl⟩ := Option.map_eq_some_iff.mp (Option.mem_toList.mp he)
    exact Text.unbroken_append.mpr ⟨Text.unbroken_ofNat _, by decide⟩

lemma Feature.unbroken_entries {f : Feature} (hname : f.name.Unbroken) (hfile : f.file.Unbroken)
    (hscenarios : ∀ m ∈ f.scenarios ++ f.outlines.map Member.outline,
      m.toScenario.name.Unbroken ∧ ∀ step ∈ m.toScenario.steps, step.text.Unbroken) :
    ∀ e ∈ f.entries, e.text.Unbroken := by
  intro e he
  rcases List.mem_append.mp he with he | he
  · rcases List.mem_cons.mp he with rfl | he
    · refine Text.unbroken_append.mpr ⟨hname, ?_⟩
      split
      · exact Text.unbroken_nil
      · exact Text.unbroken_append.mpr
          ⟨Text.unbroken_append.mpr ⟨by decide, hfile⟩, by decide⟩
    · obtain ⟨b, -, rfl⟩ := Option.map_eq_some_iff.mp (Option.mem_toList.mp he)
      exact Text.unbroken_append.mpr ⟨Text.unbroken_ofNat _, by decide⟩
  · obtain ⟨m, hm, he⟩ := List.mem_flatMap.mp he
    obtain ⟨hname, hsteps⟩ := hscenarios m (f.members_perm.mem_iff.mp hm)
    exact Member.unbroken_entries hname hsteps e he

lemma Moment.unbroken_toText (m : Moment) : m.toText.Unbroken := by
  have hpadded : ∀ width n, (padded width n).Unbroken := by
    intro width n
    refine Text.unbroken_append.mpr ⟨fun c hc => ?_, Text.unbroken_ofNat n⟩
    rw [List.eq_of_mem_replicate hc]
    decide
  simp only [toText, Text.join, List.intercalate_cons_cons, List.intercalate_singleton,
    Text.unbroken_append, hpadded, and_true, true_and]
  decide

lemma Fault.unbroken_reason (f : Fault) : f.reason.Unbroken := by
  cases f with
  | expectedStep kind => cases kind <;> decide +kernel
  | rowWidth e =>
    refine Text.unbroken_append.mpr ⟨?_, Text.unbroken_ofNat e.width⟩
    refine Text.unbroken_append.mpr ⟨?_, by decide⟩
    exact Text.unbroken_append.mpr ⟨by decide, Text.unbroken_ofNat e.cells⟩
  | _ => decide +kernel

lemma Rejection.unbroken_message (r : Rejection) : r.message.Unbroken := by
  cases r with
  | fault f line =>
    refine Text.unbroken_append.mpr ⟨?_, Text.unbroken_ofNat line⟩
    exact Text.unbroken_append.mpr ⟨f.unbroken_reason, by decide⟩
  | endOfInput => decide +kernel

lemma Outcome.unbroken_describe {o : Outcome} (h : o.source.Unbroken) : o.describe.Unbroken := by
  refine Text.unbroken_append.mpr ⟨Text.unbroken_append.mpr ⟨?_, by decide⟩, ?_⟩
  · split
    · decide
    · exact h
  · split
    · exact Text.unbroken_append.mpr ⟨Text.unbroken_ofNat _, by decide⟩
    · exact Rejection.unbroken_message _

/-! ### Paragraphs -/

namespace Summary

open Report

/-- The line that a report begins with. -/
def heading (s : Summary) : Text := "Feature summary (" ++ s.label ++ ") - " ++ s.time.toText

/-- The paragraph about the documents that were rejected, if there are any. -/
def rejected (s : Summary) : List (List Text) :=
  if s.outcomes.all (·.ok) then []
  else [("Rejected (" ++ Text.ofNat s.failures.length ++ "):") ::
    s.failures.map fun o => "  " ++ o.describe]

lemma failureLines_eq (s : Summary) : s.failureLines = s.rejected.flatMap ([] :: ·) := by
  have hnone : s.failures = [] ↔ s.outcomes.all (·.ok) := by
    simp [failures, Outcome.failures]
  rw [failureLines, rejected]
  split
  · next h => rw [if_pos (hnone.mp h), List.flatMap_nil]
  · next h => rw [if_neg (mt hnone.mpr h), List.flatMap_singleton]

/-- The paragraphs of a report. -/
def told (s : Summary) : List (List Text) :=
  [s.heading, s.counts.line] :: (blocks s.features ++ s.rejected)

/-- All paragraphs but the first stand behind an empty line. -/
lemma intercalate_cons (p : List Text) (ps : List (List Text)) :
    List.intercalate [[]] (p :: ps) = p ++ ps.flatMap ([] :: ·) := by
  induction ps generalizing p with
  | nil => rw [List.intercalate_singleton, List.flatMap_nil, List.append_nil]
  | cons q ps ih =>
    rw [List.intercalate_cons_cons, ih, List.flatMap_cons, List.append_assoc]
    rfl

/-- The report is its paragraphs with an empty line between them. -/
lemma lines_eq (s : Summary) : s.lines = List.intercalate [[]] s.told := by
  have hblocks : s.features.flatMap (fun f => [] :: featureLines f) =
      (blocks s.features).flatMap ([] :: ·) := by
    rw [blocks, List.flatMap_map]
    exact congrArg (s.features.flatMap ·) (funext fun f => congrArg _ (featureLines_eq f))
  rw [lines, told, intercalate_cons, hblocks, failureLines_eq, List.flatMap_append]
  rfl

/-- No line is empty or broken. -/
lemma Unbroken.told {s : Summary} (h : s.Unbroken) :
    ∀ p ∈ s.told, ∀ l ∈ p, l ≠ [] ∧ l.Unbroken := by
  have hheading : s.heading ≠ [] ∧ s.heading.Unbroken := by
    refine ⟨List.append_ne_nil_of_left_ne_nil (by simp) _, ?_⟩
    refine Text.unbroken_append.mpr ⟨?_, s.time.unbroken_toText⟩
    exact Text.unbroken_append.mpr ⟨Text.unbroken_append.mpr ⟨by decide, h.label⟩, by decide⟩
  have hcount : s.counts.line ≠ [] ∧ s.counts.line.Unbroken := by
    refine ⟨List.append_ne_nil_of_right_ne_nil _ (by simp), ?_⟩
    simp only [Counts.line, Text.unbroken_append, Text.unbroken_ofNat, true_and, and_true]
    decide
  have hblocks : ∀ p ∈ blocks s.features, ∀ l ∈ p, l ≠ [] ∧ l.Unbroken := by
    intro p hp l hl
    obtain ⟨f, hf, rfl⟩ := List.mem_map.mp hp
    obtain ⟨e, he, rfl⟩ := List.mem_map.mp hl
    refine ⟨e.line_ne_nil, Entry.unbroken_line ?_⟩
    exact Feature.unbroken_entries (h.names f hf) (h.files f hf) (h.scenarios f hf) e he
  have hrejected : ∀ p ∈ s.rejected, ∀ l ∈ p, l ≠ [] ∧ l.Unbroken := by
    rw [rejected]
    split
    · simp
    · rw [List.forall_mem_singleton, List.forall_mem_cons, List.forall_mem_map]
      refine ⟨⟨by simp, ?_⟩, fun o ho => ⟨by simp, ?_⟩⟩
      · refine Text.unbroken_append.mpr ⟨?_, by decide⟩
        exact Text.unbroken_append.mpr ⟨by decide, Text.unbroken_ofNat _⟩
      · exact Text.unbroken_append.mpr ⟨by decide, Outcome.unbroken_describe (h.sources o ho)⟩
  rw [Summary.told, List.forall_mem_cons, List.forall_mem_append]
  refine ⟨?_, hblocks, hrejected⟩
  simpa only [List.forall_mem_cons, List.not_mem_nil, false_implies, implies_true, and_true] using
    And.intro hheading hcount

/-- No line of an unbroken report has a break in it. -/
lemma Unbroken.lines {s : Summary} (h : s.Unbroken) : ∀ l ∈ s.lines, l.Unbroken := by
  intro l hl
  rw [lines_eq, Summary.told, intercalate_cons] at hl
  rcases List.mem_append.mp hl with hl | hl
  · exact (h.told _ List.mem_cons_self l hl).2
  · obtain ⟨p, hp, hl⟩ := List.mem_flatMap.mp hl
    rcases List.mem_cons.mp hl with rfl | hl
    · exact Text.unbroken_nil
    · exact (h.told p (List.mem_cons_of_mem _ hp) l hl).2

/-- The lines of a report, each ended by a line break, are its paragraphs with an empty line between
neighbours. -/
lemma render_text_eq (s : Summary) :
    s.render .text =
      (List.intercalate [[]] s.told).flatMap (fun l => l ++ ("\n" : Text)) := by
  rw [render, toText, lines_eq]

/-- A report of unbroken texts is cut into its paragraphs. -/
lemma paragraphs_render_text {s : Summary} (h : s.Unbroken) :
    paragraphs (s.render .text) = s.told := by
  have hlines : (Source.document (s.render .text)).toLines = s.lines := by
    have hread := Text.lines_flatMap_append (s := "\n") (by decide) h.lines Text.unbroken_nil
    have hnil : Text.lines [] = [] := rfl
    rwa [List.append_nil, hnil, List.append_nil] at hread
  rw [paragraphs, hlines, lines_eq]
  refine List.splitOn_intercalate [] (fun p hp hnil => ?_) (List.cons_ne_nil _ _)
  exact (h.told p hp [] hnil).1 rfl

/-- The lines about a feature are read as what it has, in order. -/
lemma read?_blocks (features : List Feature) :
    (blocks features).map (·.map Entry.read?) = features.map fun f => f.entries.map some := by
  rw [blocks, List.map_map]
  refine List.map_congr_left fun f _ => ?_
  rw [Function.comp_apply, List.map_map]
  exact List.map_congr_left fun e _ => e.read?_line

/-- A report is its heading, a paragraph about each feature in order and one about the rejected
documents if there are any, each but the first behind an empty line. The lines about a feature tell
what it has in order. The numbers in the heading are those of the lines of each kind if and only if
no outline stands among the scenarios of a feature: such an outline is told as an outline and
counted as a scenario. -/
theorem render_text_reads (s : Summary) (h : s.Unbroken) :
    ∃ blocks : List (List Text),
      let told := [s.heading, s.counts.line] :: (blocks ++ s.rejected)
      s.render .text = (List.intercalate [[]] told).flatMap (fun l => l ++ ("\n" : Text)) ∧
      paragraphs (s.render .text) = told ∧
      blocks.map (·.map Entry.read?) = s.features.map (fun f => f.entries.map some) ∧
      s.Counted (Report.counts blocks) ∧
      (s.counts.line = (Report.counts blocks).line ↔ s.misplaced = []) :=
  ⟨blocks s.features, s.render_text_eq, paragraphs_render_text h, read?_blocks s.features,
    s.counted_blocks, s.counted_blocks.line_eq_iff⟩

/-- An outline without examples stands before a scenario, a background has a step that is neither
told nor counted, a name looks like a line about a step, and the second feature has nothing. -/
theorem render_text_reads_rejected :
    let table : DataTable := { header := ["b"], rows := [["c"]] }
    let step : Step := ⟨.outcome, "Given a", some table, some "\n", 0⟩
    let outline : Outline := { name := "    When d", steps := [step], line := -1 }
    let scenario : Scenario := { name := "", steps := [⟨.context, "", none, none, 0⟩] }
    let f : Feature :=
      { name := "e", file := "f", scenarios := [.scenario scenario], outlines := [outline],
        background := some (.scenario { name := "\n", steps := [step] }) }
    let s : Summary :=
      { time := ⟨2024, 1, 2, 3, 4, 5⟩, features := [f, { name := "" }],
        outcomes := [{ source := "\n" }, { rejection := some .endOfInput }] }
    s.Unbroken ∧ f.members = [.outline outline, .scenario scenario] ∧
      s.counts.line = "2 features, 1 scenarios, 1 outlines, 2 steps" ∧
      s.rejected = [(["Rejected (1):", "  <document>: Unexpected end of file"] : List Text)] ∧
      ∃ blocks : List (List Text),
        let told := [s.heading, s.counts.line] :: (blocks ++ s.rejected)
        s.render .text = (List.intercalate [[]] told).flatMap (fun l => l ++ ("\n" : Text)) ∧
        paragraphs (s.render .text) = told ∧
        blocks.map (·.map Entry.read?) = s.features.map (fun f => f.entries.map some) ∧
        s.counts.line = (Report.counts blocks).line := by
  intro table step outline scenario f s
  have hunbroken : s.Unbroken := ⟨by decide, by decide, by decide, by decide, by decide⟩
  have hmembers : f.members = [.outline outline, .scenario scenario] := by
    simp [Feature.members, f, List.mergeSort, Member.toScenario, scenario, outline]
  have hmisplaced : s.misplaced = [] := by decide
  obtain ⟨blocks, hrender, hparagraphs, hread, -, hcount⟩ := render_text_reads s hunbroken
  exact ⟨hunbroken, hmembers, by decide +kernel, by decide +kernel, blocks, hrender, hparagraphs,
    hread, hcount.mpr hmisplaced⟩

/-- An outline among the scenarios of a feature: its line is that of an outline, and the heading
counts a scenario. -/
theorem countLine_misplaced :
    let step : Step := { kind := .context, text := "c" }
    let outline : Outline := { name := "b", steps := [step] }
    let s : Summary :=
      { time := ⟨2024, 1, 2, 3, 4, 5⟩,
        features := [{ name := "a", scenarios := [.outline outline] }] }
    let block : List Text := ["Feature: a", "  Scenario Outline: b", "    Given c"]
    let numbers : Text := "1 features, 1 scenarios, 0 outlines, 1 steps"
    s.Unbroken ∧ paragraphs (s.render .text) = [[s.heading, numbers], block] ∧
      Report.counts [block] = ⟨1, 0, 1, 1⟩ ∧ numbers ≠ (Report.counts [block]).line := by
  intro step outline s block numbers
  have hunbroken : s.Unbroken := ⟨by decide, by decide, by decide, by decide, by decide⟩
  have hcounts : Report.counts [block] = ⟨1, 0, 1, 1⟩ := by decide +kernel
  have hblocks : blocks s.features = [block] := by
    simp [blocks, s, Feature.entries, Feature.members, Member.entries]
    decide
  have hnumbers : s.counts.line = numbers := by decide +kernel
  refine ⟨hunbroken, ?_, hcounts, ?_⟩
  · rw [paragraphs_render_text hunbroken, told, hblocks, hnumbers]
    rfl
  · rw [hcounts]
    decide +kernel

end Summary

end FeatureDocs
