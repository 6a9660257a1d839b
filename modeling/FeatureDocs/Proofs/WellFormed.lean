import FeatureDocs.Document.Session
import FeatureDocs.Keyword.Packaged
import FeatureDocs.Proofs.Acceptance

/-!
# What is collected is well formed

A feature is collected when it is complete, so what was begun and rejected is never seen. Whatever
documents a session has parsed, its features have all that the grammar asks for
(`Session.Reachable.collected_wellFormed`).
-/

namespace FeatureDocs

open Grammar

/-! ### Well-formed features -/

/-- A text that trimming leaves as it is. -/
def Text.IsTrimmed (t : Text) : Prop := Text.trim t = t

/-- A table with a column at least, rows that are as wide as its header, and trimmed cells. -/
structure DataTable.WellFormed (t : DataTable) : Prop where
  width_pos : 1 ≤ t.width
  width_rows : ∀ row ∈ t.rows, row.length = t.width
  header : ∀ cell ∈ t.header, Text.IsTrimmed cell
  rows : ∀ row ∈ t.rows, ∀ cell ∈ row, Text.IsTrimmed cell

structure Step.WellFormed (s : Step) : Prop where
  text : Text.IsTrimmed s.text
  table : ∀ t ∈ s.table, t.WellFormed

/-- The steps of a section, one at least. -/
structure IsSection (kind : StepKind) (steps : List Step) : Prop where
  ne_nil : steps ≠ []
  kind : ∀ s ∈ steps, s.kind = kind
  wellFormed : ∀ s ∈ steps, s.WellFormed

/-- A scenario with its three sections, in order. -/
structure Scenario.WellFormed (s : Scenario) : Prop where
  name : Text.IsTrimmed s.name
  steps : ∃ context action outcome, s.steps = context ++ action ++ outcome ∧
    IsSection .context context ∧ IsSection .action action ∧ IsSection .outcome outcome

/-- An outline is a scenario with examples. -/
structure Outline.WellFormed (o : Outline) : Prop where
  scenario : o.toScenario.WellFormed
  examples : ∃ t, o.examples = some t ∧ t.WellFormed

/-- A background has no name, and nothing but a context. -/
structure Scenario.IsBackground (s : Scenario) : Prop where
  name : s.name = []
  steps : IsSection .context s.steps

/-- A plain scenario of which something holds: no outline, that is. -/
def Member.IsPlain (P : Scenario → Prop) (m : Member) : Prop := ∃ s, m = .scenario s ∧ P s

/-- A feature all of whose parts are well formed, and whose outlines are in the list of outlines. -/
structure Feature.WellFormed (f : Feature) : Prop where
  name : Text.IsTrimmed f.name
  description : ∀ text ∈ f.description, Text.IsTrimmed text ∧ text ≠ []
  background : ∀ m ∈ f.background, m.IsPlain Scenario.IsBackground
  scenarios : ∀ m ∈ f.scenarios, m.IsPlain Scenario.WellFormed
  outlines : ∀ o ∈ f.outlines, o.WellFormed

/-! ### Trimmed texts -/

variable {k : KeywordTable}

lemma KeywordTable.isTrimmed_strip (k : KeywordTable) (line : Text) (c : Category) :
    Text.IsTrimmed (k.strip line c) := by
  unfold strip
  split
  · exact Text.trim_trim _
  · rfl

lemma DataTable.isTrimmed_cells {line cell : Text} (h : cell ∈ DataTable.cells line) :
    Text.IsTrimmed cell := by
  obtain ⟨piece, -, rfl⟩ := List.mem_map.mp h
  exact Text.trim_trim piece

namespace Grammar

variable {input rest : List Line}

/-! ### Tables and steps -/

lemma Rows.wellFormed {width : Nat} {rows : List (List Text)} (h : Rows width input rows rest) :
    ∀ row ∈ rows, row.length = width ∧ ∀ cell ∈ row, Text.IsTrimmed cell := by
  induction h with
  | stop => simp
  | @row l _ _ _ _ hw _ ih =>
    intro row hrow
    rcases List.mem_cons.mp hrow with rfl | hrow
    · exact ⟨hw, fun _ => DataTable.isTrimmed_cells⟩
    · exact ih row hrow

lemma Table.wellFormed {t : DataTable} (h : Table input t rest) : t.WellFormed := by
  cases h with
  | @table l _ _ _ _ hrows =>
    exact
      { width_pos := List.length_pos_iff.mpr (DataTable.cells_ne_nil l.text)
        width_rows := fun row hrow => (hrows.wellFormed row hrow).1
        header := fun _ => DataTable.isTrimmed_cells
        rows := fun row hrow => (hrows.wellFormed row hrow).2 }

lemma StepText.isTrimmed {kind : StepKind} {line text : Text} (h : StepText k kind line text) :
    Text.IsTrimmed text := by
  cases h with
  | primary _ => exact k.isTrimmed_strip _ _
  | conjunction _ _ => exact k.isTrimmed_strip _ _

lemma StepLines.wellFormed {kind : StepKind} {s : Step} (h : StepLines k kind input s rest) :
    s.kind = kind ∧ s.WellFormed := by
  cases h with
  | step hl ht _ _ =>
    refine ⟨rfl, hl.isTrimmed, ?_⟩
    intro t hmem
    cases ht with
    | absent => cases hmem
    | present _ ht =>
      cases hmem
      exact ht.wellFormed

lemma SectionLines.isSection {kind : StepKind} {steps : List Step}
    (h : SectionLines k kind input steps rest) : IsSection kind steps := by
  induction h with
  | last hs _ =>
    obtain ⟨hkind, hwell⟩ := hs.wellFormed
    exact ⟨List.cons_ne_nil _ _, by simpa using hkind, by simpa using hwell⟩
  | more hs _ _ ih =>
    obtain ⟨hkind, hwell⟩ := hs.wellFormed
    exact ⟨List.cons_ne_nil _ _, List.forall_mem_cons.mpr ⟨hkind, ih.kind⟩,
      List.forall_mem_cons.mpr ⟨hwell, ih.wellFormed⟩⟩

/-! ### Blocks and features -/

/-- The steps that the grammar derives make a well-formed scenario. -/
lemma Sections.wellFormed {name : Text} {steps : List Step} {line : Int}
    (h : Sections k input steps rest) (hname : Text.IsTrimmed name) :
    Scenario.WellFormed { name, steps, line } := by
  cases h with
  | sections _ hc ha ho =>
    exact ⟨hname, _, _, _, rfl, hc.isSection, ha.isSection, ho.isSection⟩

/-- A block that is well formed as what it is. -/
def Part.WellFormed : Part → Prop
  | .background s => s.IsBackground
  | .scenario s => s.WellFormed
  | .outline o => o.WellFormed

lemma BlockLines.wellFormed {p : Part} (h : BlockLines k input p rest) : p.WellFormed := by
  cases h with
  | background _ _ h _ => exact ⟨rfl, h.isSection⟩
  | outline _ _ hs ht =>
    refine ⟨hs.wellFormed (k.isTrimmed_strip _ _), _, rfl, ?_⟩
    cases ht with
    | examples _ _ h => exact h.wellFormed
  | scenario _ _ _ hs => exact hs.wellFormed (k.isTrimmed_strip _ _)

lemma Parts.wellFormed {parts : List Part} (h : Parts k input parts rest) :
    ∀ p ∈ parts, p.WellFormed := by
  induction h with
  | stop => simp
  | part _ _ hp _ ih => exact List.forall_mem_cons.mpr ⟨hp.wellFormed, ih⟩

lemma Description.wellFormed {texts : List Text} (h : Description k input texts rest) :
    ∀ text ∈ texts, Text.IsTrimmed text ∧ text ≠ [] := by
  induction h with
  | stop => simp
  | @line l _ _ _ _ hgap _ _ _ _ _ ih =>
    refine List.forall_mem_cons.mpr ⟨⟨Text.trim_trim _, ?_⟩, ih⟩
    rw [ne_eq, Text.trim_eq_nil_iff]
    exact hgap.head l rfl

/-- A feature that the grammar derives is well-formed. -/
lemma FeatureLines.wellFormed {f : Feature} (h : FeatureLines k input f rest) :
    f.WellFormed := by
  cases h with
  | @feature l _ _ _ _ _ parts _ hd hp _ _ _ =>
    have hparts := hp.wellFormed
    refine ⟨k.isTrimmed_strip _ _, hd.wellFormed, ?_, ?_, ?_⟩
    · intro m hm
      obtain ⟨s, hs, rfl⟩ := Option.map_eq_some_iff.mp hm
      exact ⟨s, rfl, hparts _ (mem_backgrounds.mp (List.mem_of_mem_head? hs))⟩
    · intro m hm
      obtain ⟨s, hs, rfl⟩ := List.mem_map.mp hm
      exact ⟨s, rfl, hparts _ (mem_scenarios.mp hs)⟩
    · intro o ho
      exact hparts _ (mem_outlines.mp ho)

lemma Passage.wellFormed {features : List Feature} (h : Passage k input features rest) :
    ∀ f ∈ features, f.WellFormed := by
  induction h with
  | stop => simp
  | feature _ hf _ ih => exact List.forall_mem_cons.mpr ⟨hf.wellFormed, ih⟩

end Grammar

/-! ### Sessions -/

lemma Feature.WellFormed.of_unbound {f : Feature} (h : f.unbound.WellFormed) : f.WellFormed :=
  ⟨h.name, h.description, h.background, h.scenarios, h.outlines⟩

/-- Also a document that is rejected has well-formed features only. -/
lemma KeywordTable.parse_wellFormed (k : KeywordTable) (resolver : Option Resolver)
    (document : Source) (source : Text) :
    ∀ f ∈ (k.parse resolver document source).outcome.features, f.WellFormed := by
  intro f hf
  obtain ⟨rest, hpassage⟩ := k.read_passage document.toLines
  apply Feature.WellFormed.of_unbound
  apply hpassage.wellFormed
  rw [← k.parse_unbound resolver document source]
  exact List.mem_map_of_mem hf

/-- The sessions that begin with nothing, and then parse documents and forget features at will. -/
inductive Session.Reachable (k : KeywordTable) : Session → Prop
  | start : Reachable k { keywords := k }
  | parse {s : Session} (h : Reachable k s) (resolver : Option Resolver) (document : Source)
      (source : Text) : Reachable k (s.parse resolver document source).1
  | clear {s : Session} (h : Reachable k s) : Reachable k s.clear

/-- Whatever documents were parsed, accepted or rejected, all features that were collected are well
formed. -/
theorem Session.Reachable.collected_wellFormed {k : KeywordTable} {s : Session}
    (h : s.Reachable k) : ∀ f ∈ s.collected, f.WellFormed := by
  induction h with
  | start => simp
  | @parse s _ resolver document source ih =>
    intro f hf
    rcases List.mem_append.mp hf with hf | hf
    · exact ih f hf
    · exact s.keywords.parse_wellFormed resolver document source f hf
  | clear _ _ => simp [Session.clear]

/-- The last feature of the second document has an outline whose examples have no table: it was
begun, and nothing of it is collected. -/
theorem Session.collected_wellFormed_english :
    let k := KeywordTable.ofEntry "en" Dataset.english
    let s : Session := { keywords := k }
    let first := s.parse none
      (.lines ["Feature:  A ", "  b ", "Background:", "Given c", "And d", "", "Feature: E"]) []
    let second := first.1.parse none
      (.lines ["Feature: F", "Scenario Outline: G", "Given h", "|i|j|", "||k", "When l", "Then m",
        "Examples:", "|n|", "Feature: O", "Scenario Outline: P", "Given q", "When r", "Then s",
        "Examples:", "t"]) []
    second.1.Reachable k ∧ first.2.outcome.ok ∧ ¬ second.2.outcome.ok ∧
      second.1.collected.map (·.name) = ["A", "E", "F"] ∧
      ∀ f ∈ second.1.collected, f.WellFormed := by
  intro k s first second
  have hreachable : second.1.Reachable k := .parse (.parse .start _ _ _) _ _ _
  have hok : first.2.outcome.ok := by rfl
  have hrejected : ¬ second.2.outcome.ok := by decide +kernel
  have hnames : second.1.collected.map (·.name) = ["A", "E", "F"] := by rfl
  exact ⟨hreachable, hok, hrejected, hnames, hreachable.collected_wellFormed⟩

end FeatureDocs
