import FeatureDocs.Proofs.Json
import FeatureDocs.Report.Summary
import Mathlib.Data.List.Forall2

/-!
# Summaries as JSON documents

What a summary tells programs is read back as it was written: the label, the documents of all
features, and what is told of each rejected document (`Summary.read?_render_json`). The document of
a feature tells all of it but which implementation it is bound to (`Feature.toJson_eq_iff`): what is
missing from a step is told from what is there and empty.
-/

namespace FeatureDocs

open Function (Injective)

/-! ### Nodes of features -/

namespace Json

lemma texts_injective : Injective texts := by
  intro ts us h
  exact List.map_injective_iff.mpr (fun _ _ => text.inj) (array.inj h)

/-- A document that may be missing is not taken for one that is nothing. -/
lemma ofOption_injective_map {α : Type} {toJson : α → Json} (h : Injective toJson)
    (hnull : ∀ a, toJson a ≠ .null) : Injective fun a : Option α => ofOption (a.map toJson) := by
  intro a b hab
  cases a with
  | none =>
    cases b with
    | none => rfl
    | some b => exact absurd hab.symm (hnull b)
  | some a =>
    cases b with
    | none => exact absurd hab (hnull a)
    | some b => exact congrArg some (h hab)

end Json

lemma DataTable.toJson_injective : Injective DataTable.toJson := by
  intro t u h
  simp only [toJson, Json.object.injEq, List.cons.injEq, Prod.mk.injEq, Json.array.injEq, true_and,
    and_true] at h
  obtain ⟨hheader, hrows⟩ := h
  have hheader := Json.texts_injective hheader
  have hrows := List.map_injective_iff.mpr Json.texts_injective hrows
  cases t
  cases u
  simp_all

lemma StepKind.name_injective : Injective StepKind.name := by
  intro k l h
  cases k <;> cases l <;> first | rfl | exact absurd h (by decide)

/-- What a step has is a member of its document, and so is what it lacks none. -/
lemma Step.member?_toJson (s : Step) :
    s.toJson.member? "kind" = some (.text s.kind.name) ∧
      s.toJson.member? "text" = some (.text s.text) ∧
      s.toJson.member? "line" = some (.int s.line) ∧
      s.toJson.member? "data_table" = s.table.map DataTable.toJson ∧
      s.toJson.member? "doc_string" = s.docString.map .text := by
  obtain ⟨kind, text, table, docString, line⟩ := s
  cases table <;> cases docString <;> exact ⟨rfl, rfl, rfl, rfl, rfl⟩

lemma Step.toJson_injective : Injective Step.toJson := by
  intro s s' h
  obtain ⟨hkind, htext, hline, htable, hdoc⟩ := s.member?_toJson
  obtain ⟨hkind', htext', hline', htable', hdoc'⟩ := s'.member?_toJson
  rw [h] at hkind htext hline htable hdoc
  have hkind := StepKind.name_injective (Json.text.inj (Option.some.inj (hkind.symm.trans hkind')))
  have htext := Json.text.inj (Option.some.inj (htext.symm.trans htext'))
  have hline := Json.int.inj (Option.some.inj (hline.symm.trans hline'))
  have htable := Option.map_injective DataTable.toJson_injective (htable.symm.trans htable')
  have hdoc := Option.map_injective (fun _ _ => Json.text.inj) (hdoc.symm.trans hdoc')
  cases s
  cases s'
  simp_all

lemma Scenario.jsonMembers_injective : Injective Scenario.jsonMembers := by
  intro s s' h
  simp only [jsonMembers, List.cons.injEq, Prod.mk.injEq, Json.array.injEq, Json.text.injEq,
    Json.int.injEq, true_and, and_true] at h
  obtain ⟨hname, hline, hsteps⟩ := h
  have hsteps := List.map_injective_iff.mpr Step.toJson_injective hsteps
  cases s
  cases s'
  simp_all

lemma Scenario.toJson_injective : Injective Scenario.toJson :=
  fun _ _ h => Scenario.jsonMembers_injective (Json.object.inj h)

lemma Outline.toJson_injective : Injective Outline.toJson := by
  intro o o' h
  obtain ⟨hmembers, hexamples⟩ := List.append_inj (Json.object.inj h) rfl
  have hscenario := Scenario.jsonMembers_injective hmembers
  simp only [List.cons.injEq, Json.member, Prod.mk.injEq, true_and, and_true] at hexamples
  have hexamples := Json.ofOption_injective_map DataTable.toJson_injective
    (by simp [DataTable.toJson]) hexamples
  cases o
  cases o'
  simp_all

/-- What a scenario is can be told from its document: only that of an outline has examples. -/
lemma Member.toJson_injective : Injective Member.toJson := by
  have hne (s : Scenario) (o : Outline) : s.toJson ≠ o.toJson := by
    simp [Scenario.toJson, Outline.toJson, Scenario.jsonMembers]
  intro m m' h
  cases m with
  | scenario s =>
    cases m' with
    | scenario s' => exact congrArg scenario (Scenario.toJson_injective h)
    | outline o => exact absurd h (hne s o)
  | outline o =>
    cases m' with
    | scenario s => exact absurd h.symm (hne s o)
    | outline o' => exact congrArg outline (Outline.toJson_injective h)

lemma Member.toJson_ne_null (m : Member) : m.toJson ≠ .null := by
  cases m <;> simp [toJson, Scenario.toJson, Outline.toJson]

/-! ### Features -/

/-- Two features that are equal but for their implementations, which both have or both lack. -/
structure Feature.SameButHandle (f g : Feature) : Prop where
  fields : { f with implementation := none } = { g with implementation := none }
  implementation : f.implementation.isSome = g.implementation.isSome

/-- A feature can be told from its document up to the implementation's handle. -/
lemma Feature.toJson_eq_iff {f g : Feature} : f.toJson = g.toJson ↔ f.SameButHandle g := by
  constructor
  · intro h
    simp only [toJson, Json.object.injEq, List.cons.injEq, Prod.mk.injEq, Json.text.injEq,
      Json.int.injEq, Json.array.injEq, Json.bool.injEq, true_and, and_true] at h
    -- member by member: each is written by a function that is injective in its turn
    obtain ⟨hname, hfile, hline, hdescription, hbackground, hscenarios, houtlines, himpl⟩ := h
    have hdescription := Json.texts_injective hdescription
    have hbackground := Json.ofOption_injective_map Member.toJson_injective
      Member.toJson_ne_null hbackground
    have hscenarios := List.map_injective_iff.mpr Member.toJson_injective hscenarios
    have houtlines := List.map_injective_iff.mpr Outline.toJson_injective houtlines
    refine ⟨?_, himpl⟩
    simp_all
  · rintro ⟨hfields, himpl⟩
    simp only [Feature.mk.injEq] at hfields
    simp_all [toJson]

/-! ### Summaries -/

/-- What a summary tells of a document that was rejected. -/
structure Failure where
  source : Text
  kind : Text
  line : Option Int
  message : Text

/-- A failure as a document. -/
def Failure.toJson (f : Failure) : Json :=
  .object
    [("source", .text f.source), ("kind", .text f.kind), ("line", .ofOption (f.line.map .int)),
     ("message", .text f.message)]

/-- What a summary tells of an outcome, if it is that of a rejected document. -/
def Outcome.failure? (o : Outcome) : Option Failure :=
  o.rejection.map fun r => ⟨o.source, r.kindName, r.line?.map Int.ofNat, r.message⟩

/-- The document of a summary with a label, of some features and of some failures. -/
def Summary.document (label : Text) (features : List Feature) (failures : List Failure) : Json :=
  .object
    [("language", .text label), ("features", .array (features.map Feature.toJson)),
     ("failures", .array (failures.map Failure.toJson))]

/-- A failure can be told from its document. -/
lemma Failure.toJson_injective : Injective Failure.toJson := by
  intro f g h
  simp only [toJson, Json.object.injEq, List.cons.injEq, Prod.mk.injEq, Json.text.injEq, true_and,
    and_true] at h
  obtain ⟨hsource, hkind, hline, hmessage⟩ := h
  have hline := Json.ofOption_injective_map (fun _ _ => Json.int.inj) (by simp) hline
  cases f
  cases g
  simp_all

lemma Summary.document_eq_iff {label label' : Text} {features features' : List Feature}
    {failures failures' : List Failure} :
    document label features failures = document label' features' failures' ↔
      label = label' ∧ List.Forall₂ Feature.SameButHandle features features' ∧
        failures = failures' := by
  have hfeatures : features.map Feature.toJson = features'.map Feature.toJson ↔
      List.Forall₂ Feature.SameButHandle features features' := by
    rw [← List.forall₂_eq_eq_eq, List.forall₂_map_left_iff, List.forall₂_map_right_iff]
    simp only [Feature.toJson_eq_iff]
  simp only [document, Json.object.injEq, List.cons.injEq, Prod.mk.injEq, Json.text.injEq,
    Json.array.injEq, true_and, and_true, hfeatures,
    (List.map_injective_iff.mpr Failure.toJson_injective).eq_iff]

/-- The failures of outcomes are those that were rejected, in order. -/
lemma Outcome.map_failure? (os : List Outcome) :
    (failures os).map failure? = (os.filterMap failure?).map some := by
  induction os with
  | nil => rfl
  | cons o os ih =>
    cases h : o.rejection <;> simp_all [failures, ok, failure?]

/-- The document of a rejection is that of its failure. -/
lemma Outcome.map_rejection_toJson (o : Outcome) :
    o.rejection.map (Rejection.toJson o.source) = o.failure?.map Failure.toJson := by
  rw [failure?]
  rcases o.rejection with _ | ⟨_, _⟩ | _ <;> rfl

/-- A summary tells of its failures in order, one for each outcome that is not all right. -/
lemma Summary.exists_failures (s : Summary) :
    ∃ failures, s.failures.map Outcome.failure? = failures.map some ∧
      s.toJson = document s.label s.features failures := by
  refine ⟨s.outcomes.filterMap Outcome.failure?, Outcome.map_failure? s.outcomes, ?_⟩
  rw [toJson, document, List.map_filterMap]
  simp only [Outcome.map_rejection_toJson]

/-- A summary in JSON tells all that it is made of. Reading it gives the object with its label, the
documents of its features, and one failure for each rejected outcome, in order; the document of a
feature tells everything of it but which implementation it has; and so two summaries that differ in
any of this are written differently. This holds of whatever failures there are. -/
theorem Summary.read?_render_json (s s' : Summary) :
    (∃ failures, s.failures.map Outcome.failure? = failures.map some ∧
      Json.read? (s.render .json) = some (document s.label s.features failures)) ∧
    (s.render .json = s'.render .json ↔
      s.label = s'.label ∧ List.Forall₂ Feature.SameButHandle s.features s'.features ∧
        s.failures.map Outcome.failure? = s'.failures.map Outcome.failure?) ∧
    (∀ f g : Feature, f.toJson = g.toJson ↔ f.SameButHandle g) ∧
    (∀ label features failures, Json.read? (document label features failures).write =
      some (document label features failures)) ∧
    ∀ label features failures label' features' failures',
      (document label features failures).write = (document label' features' failures').write ↔
        label = label' ∧ List.Forall₂ Feature.SameButHandle features features' ∧
          failures = failures' := by
  have hwrite {j j' : Json} : j.write = j'.write ↔ j = j' := Json.write_injective.eq_iff
  obtain ⟨failures, hfailures, hdocument⟩ := s.exists_failures
  obtain ⟨failures', hfailures', hdocument'⟩ := s'.exists_failures
  refine ⟨⟨failures, hfailures, ?_⟩, ?_, fun f g => Feature.toJson_eq_iff,
    fun _ _ _ => Json.read?_write _, fun _ _ _ _ _ _ => hwrite.trans document_eq_iff⟩
  · rw [← hdocument]
    exact Json.read?_write s.toJson
  · have hsome : failures.map some = failures'.map some ↔ failures = failures' :=
      (List.map_injective_iff.mpr fun _ _ => Option.some.inj).eq_iff
    rw [hfailures, hfailures', hsome, ← document_eq_iff, ← hdocument, ← hdocument']
    exact hwrite

end FeatureDocs
