import FeatureDocs.Proofs.Trim

/-!
# The grammar of feature documents

Each relation `R input v rest` says that the lines of `input` up to `rest` are the written form of
`v` when `rest` is what follows them. The rest matters: a table ends where the next line is no row,
a section where the next line begins with no conjunction, and a feature where the next line begins
with the keyword of a feature, so the relations look at its first line. Two looks, for a conjunction
and for the next feature, are at the line as it stands; all others are at the trimmed line.
-/

namespace FeatureDocs

/-- A line of a document with its number, counted from one. -/
structure Line where
  number : Nat
  text : Text

/-- Lines with their numbers, when `n` lines stand before them. -/
def numberFrom (n : Nat) : List Text → List Line
  | [] => []
  | text :: rest => ⟨n + 1, text⟩ :: numberFrom (n + 1) rest

@[simp] lemma numberFrom_nil (n : Nat) : numberFrom n [] = [] := rfl

@[simp] lemma numberFrom_cons (n : Nat) (text : Text) (rest : List Text) :
    numberFrom n (text :: rest) = ⟨n + 1, text⟩ :: numberFrom (n + 1) rest := rfl

namespace Grammar

/-! ### Blank lines -/

/-- All blank lines up to the next line that is not blank. -/
inductive Gap : List Line → List Line → Prop
  | stop {rest : List Line} (h : ∀ l ∈ rest.head?, ¬ Text.isBlank l.text) : Gap rest rest
  | blank {l : Line} {input rest : List Line} (hl : Text.isBlank l.text) (h : Gap input rest) :
      Gap (l :: input) rest

/-- An item that may be missing, behind a gap. It is there if the next line is one that begins
such an item. -/
inductive Slot {α : Type} (Item : List Line → α → List Line → Prop) (begins : Text → Prop) :
    List Line → Option α → List Line → Prop
  | absent {input rest : List Line} (hgap : Gap input rest)
      (h : ∀ l ∈ rest.head?, ¬ begins l.text) : Slot Item begins input none rest
  | present {input start rest : List Line} {v : α} (hgap : Gap input start)
      (h : Item start v rest) : Slot Item begins input (some v) rest

/-! ### Tables -/

/-- The rows of a table of the given width, as many as there are. -/
inductive Rows (width : Nat) : List Line → List (List Text) → List Line → Prop
  | stop {rest : List Line} (h : ∀ l ∈ rest.head?, ¬ DataTable.isRow l.text) :
      Rows width rest [] rest
  | row {l : Line} {input rest : List Line} {rows : List (List Text)}
      (hl : DataTable.isRow l.text) (hw : (DataTable.cells l.text).length = width)
      (h : Rows width input rows rest) :
      Rows width (l :: input) (DataTable.cells l.text :: rows) rest

/-- A header and rows that are as wide. -/
inductive Table : List Line → DataTable → List Line → Prop
  | table {l : Line} {input rest : List Line} {rows : List (List Text)}
      (hl : DataTable.isRow l.text)
      (h : Rows (DataTable.cells l.text).length input rows rest) :
      Table (l :: input) { header := DataTable.cells l.text, rows := rows } rest

/-! ### Doc strings -/

/-- A text that is the marker of a doc string when trimmed. -/
def IsMarker (text : Text) : Prop := Text.trim text = docStringMarker

/-- The lines of a doc string without their indentation, and its closing marker. -/
inductive Body (indentation : Text) : List Line → List Text → List Line → Prop
  | close {l : Line} {rest : List Line} (hl : IsMarker l.text) (hi : indentation <+: l.text) :
      Body indentation (l :: rest) [] rest
  | line {l : Line} {input rest : List Line} {content : Text} {body : List Text}
      (hl : ¬ IsMarker l.text) (hi : l.text = indentation ++ content)
      (h : Body indentation input body rest) :
      Body indentation (l :: input) (content :: body) rest

/-- A doc string between two markers, indented like the first of them. -/
inductive DocString : List Line → Text → List Line → Prop
  | docString {l : Line} {input rest : List Line} {indentation behind : Text} {body : List Text}
      (hi : Text.isBlank indentation) (hb : Text.isBlank behind)
      (hl : l.text = indentation ++ (docStringMarker ++ behind))
      (h : Body indentation input body rest) :
      DocString (l :: input) (Text.join "\n" body) rest

variable (k : KeywordTable)

/-! ### Steps -/

/-- The text of a step: what stands behind the keyword of its section, or else behind a
conjunction. -/
inductive StepText (kind : StepKind) (line : Text) : Text → Prop
  | primary (h : k.Matches (Text.trim line) kind.category) :
      StepText kind line (k.strip (Text.trim line) kind.category)
  | conjunction (hp : ¬ k.Matches (Text.trim line) kind.category)
      (h : k.Matches (Text.trim line) .conjunction) :
      StepText kind line (k.strip (Text.trim line) .conjunction)

/-- A step with its table and its doc string. -/
inductive StepLines (kind : StepKind) : List Line → Step → List Line → Prop
  | step {l : Line} {input a b rest : List Line} {text : Text} {table : Option DataTable}
      {docString : Option Text} (hl : StepText k kind l.text text)
      (ht : Slot Table (DataTable.isRow ·) input table a) (hd : Slot DocString IsMarker a docString b)
      (hgap : Gap b rest) :
      StepLines kind (l :: input) { kind, text, table, docString, line := l.number } rest

/-- The steps of a section: one, and another one for each conjunction that follows. -/
inductive SectionLines (kind : StepKind) : List Line → List Step → List Line → Prop
  | last {input rest : List Line} {s : Step} (hs : StepLines k kind input s rest)
      (h : ∀ l ∈ rest.head?, ¬ k.Matches l.text .conjunction) : SectionLines kind input [s] rest
  | more {input rest : List Line} {l : Line} {next : List Line} {s : Step} {steps : List Step}
      (hs : StepLines k kind input s (l :: next)) (hl : k.Matches l.text .conjunction)
      (h : SectionLines kind (l :: next) steps rest) : SectionLines kind input (s :: steps) rest

/-! ### Blocks -/

/-- The three sections of a scenario. -/
inductive Sections : List Line → List Step → List Line → Prop
  | sections {input a b c rest : List Line} {context action outcome : List Step}
      (hgap : Gap input a) (hc : SectionLines k .context a context b)
      (ha : SectionLines k .action b action c) (ho : SectionLines k .outcome c outcome rest) :
      Sections input (context ++ action ++ outcome) rest

/-- The examples of an outline. -/
inductive Examples : List Line → DataTable → List Line → Prop
  | examples {l : Line} {input start rest : List Line} {t : DataTable}
      (hl : k.Matches (Text.trim l.text) .examples) (hgap : Gap input start)
      (h : Table start t rest) : Examples (l :: input) t rest

/-- A block of a feature. -/
inductive Part
  | background (s : Scenario)
  | scenario (s : Scenario)
  | outline (o : Outline)

/-- A block. A line that begins with several keywords begins a background if it can, or else an
outline. A background is not the end of a document. -/
inductive BlockLines : List Line → Part → List Line → Prop
  | background {l : Line} {input start rest : List Line} {steps : List Step}
      (hl : k.Matches (Text.trim l.text) .background)
      (hgap : Gap input start) (h : SectionLines k .context start steps rest) (hrest : rest ≠ []) :
      BlockLines (l :: input) (.background { name := [], steps, line := l.number }) rest
  | outline {l : Line} {input a rest : List Line} {steps : List Step} {t : DataTable}
      (hb : ¬ k.Matches (Text.trim l.text) .background)
      (hl : k.Matches (Text.trim l.text) .outline)
      (hs : Sections k input steps a) (ht : Examples k a t rest) :
      BlockLines (l :: input)
        (.outline
          { name := k.strip (Text.trim l.text) .outline, steps, line := l.number,
            examples := some t })
        rest
  | scenario {l : Line} {input rest : List Line} {steps : List Step}
      (hb : ¬ k.Matches (Text.trim l.text) .background)
      (ho : ¬ k.Matches (Text.trim l.text) .outline)
      (hl : k.Matches (Text.trim l.text) .scenario) (hs : Sections k input steps rest) :
      BlockLines (l :: input)
        (.scenario { name := k.strip (Text.trim l.text) .scenario, steps, line := l.number }) rest

/-! ### Features -/

/-- The lines of a description, none of which begins a block or a feature. -/
inductive Description : List Line → List Text → List Line → Prop
  | stop {rest : List Line} : Description rest [] rest
  | line {l : Line} {input next rest : List Line} {texts : List Text} (hgap : Gap input (l :: next))
      (hf : ¬ k.Matches l.text .feature) (hb : ¬ k.Matches (Text.trim l.text) .background)
      (ho : ¬ k.Matches (Text.trim l.text) .outline)
      (hs : ¬ k.Matches (Text.trim l.text) .scenario) (h : Description next texts rest) :
      Description input (Text.trim l.text :: texts) rest

/-- Blocks one after the other, none of which begins like a feature. -/
inductive Parts : List Line → List Part → List Line → Prop
  | stop {rest : List Line} : Parts rest [] rest
  | part {l : Line} {input next mid rest : List Line} {p : Part} {parts : List Part}
      (hgap : Gap input (l :: next)) (hf : ¬ k.Matches l.text .feature)
      (hp : BlockLines k (l :: next) p mid) (h : Parts mid parts rest) :
      Parts input (p :: parts) rest

/-- The backgrounds among some blocks. -/
def backgrounds (parts : List Part) : List Scenario :=
  parts.filterMap fun | .background s => some s | _ => none

/-- The scenarios among some blocks. -/
def scenarios (parts : List Part) : List Scenario :=
  parts.filterMap fun | .scenario s => some s | _ => none

/-- The outlines among some blocks. -/
def outlines (parts : List Part) : List Outline :=
  parts.filterMap fun | .outline o => some o | _ => none

@[simp] lemma backgrounds_append (parts parts' : List Part) :
    backgrounds (parts ++ parts') = backgrounds parts ++ backgrounds parts' :=
  List.filterMap_append

@[simp] lemma scenarios_append (parts parts' : List Part) :
    scenarios (parts ++ parts') = scenarios parts ++ scenarios parts' :=
  List.filterMap_append

@[simp] lemma outlines_append (parts parts' : List Part) :
    outlines (parts ++ parts') = outlines parts ++ outlines parts' :=
  List.filterMap_append

/-- What can be picked from one block only is picked from some blocks if that one is among them. -/
lemma mem_filterMap_iff {α : Type} {pick : Part → Option α} {block : α → Part} {a : α}
    (h : ∀ p, pick p = some a ↔ p = block a) (parts : List Part) :
    a ∈ parts.filterMap pick ↔ block a ∈ parts := by
  simp only [List.mem_filterMap, h, exists_eq_right]

lemma mem_backgrounds {parts : List Part} {s : Scenario} :
    s ∈ backgrounds parts ↔ .background s ∈ parts :=
  mem_filterMap_iff (fun p => by cases p <;> simp) parts

lemma mem_scenarios {parts : List Part} {s : Scenario} :
    s ∈ scenarios parts ↔ .scenario s ∈ parts :=
  mem_filterMap_iff (fun p => by cases p <;> simp) parts

lemma mem_outlines {parts : List Part} {o : Outline} :
    o ∈ outlines parts ↔ .outline o ∈ parts :=
  mem_filterMap_iff (fun p => by cases p <;> simp) parts

/-- A feature with at most one background. It ends where the document ends, or where the next line
begins like a feature. -/
inductive FeatureLines : List Line → Feature → List Line → Prop
  | feature {l : Line} {input a b rest : List Line} {description : List Text} {parts : List Part}
      (hl : k.Matches (Text.trim l.text) .feature) (hd : Description k input description a)
      (hp : Parts k a parts b) (hone : (backgrounds parts).length ≤ 1) (hgap : Gap b rest)
      (hrest : ∀ l ∈ rest.head?, k.Matches l.text .feature) :
      FeatureLines (l :: input)
        { name := k.strip (Text.trim l.text) .feature
          background := (backgrounds parts).head?.map .scenario
          scenarios := (scenarios parts).map .scenario
          outlines := outlines parts
          description
          line := l.number }
        rest

/-- Features one after the other, and nothing but blank lines between them. -/
inductive Document : List Line → List Feature → Prop
  | stop {input : List Line} (hgap : Gap input []) : Document input []
  | feature {l : Line} {input next rest : List Line} {f : Feature} {features : List Feature}
      (hgap : Gap input (l :: next)) (hf : FeatureLines k (l :: next) f rest)
      (h : Document rest features) : Document input (f :: features)

end Grammar

end FeatureDocs
