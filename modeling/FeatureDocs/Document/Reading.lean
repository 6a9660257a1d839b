import FeatureDocs.Document.Rejection
import FeatureDocs.Keyword.Table

/-!
# Reading a document

A document is read one line at a time. Between two lines the reader knows the features that are
complete, the feature it is in, and the place there: between two blocks, at the head of a block, at
a step, or at the examples of an outline. A line is taken by what is open, or closes it and is then
looked at from the place outside. Two looks ahead, for the next feature and for a conjunction, are
at the line as it stands; all else is at the trimmed line.

What is being read keeps its lists with the last item first, and is closed when it is complete.
`read_append` says that reading may be interrupted after any line.
-/

namespace FeatureDocs

/-- The line above and below a doc string, apart from its indentation. -/
def docStringMarker : Text := "\"\"\""

/-! ### Tables -/

/-- A table whose rows are being read. -/
structure OpenTable where
  header : List Text
  rows : List (List Text) := []

namespace OpenTable

/-- The table of the rows so far. -/
def close (t : OpenTable) : DataTable := { header := t.header, rows := t.rows.reverse }

/-- The table with one more row. -/
def addRow (t : OpenTable) (row : List Text) : Except DataTable.WidthError OpenTable :=
  if row.length = t.header.length then .ok { t with rows := row :: t.rows }
  else .error ⟨row.length, t.header.length⟩

/-- Rows may be added before or after a table is closed. -/
theorem addRow_close (t : OpenTable) (row : List Text) :
    t.close.addRow row = (t.addRow row).map close := by
  by_cases h : row.length = t.header.length <;>
    simp [DataTable.addRow, DataTable.width, addRow, close, h, Except.map]

end OpenTable

/-! ### Steps -/

/-- What has been read after the line of a step. -/
inductive Attachment
  /-- Nothing but blank lines. -/
  | bare
  /-- A table, whose last line is the line before. -/
  | table (t : OpenTable)
  /-- A table and a blank line. -/
  | afterTable (t : DataTable)
  /-- The opening marker of a doc string and the lines below it, without their indentation. -/
  | docString (t : Option DataTable) (indentation : Text) (body : List Text)
  /-- A complete doc string. -/
  | afterDocString (t : Option DataTable) (text : Text)

/-- A step to which something may still be attached. -/
structure OpenStep where
  kind : StepKind
  text : Text
  line : Nat
  attachment : Attachment := .bare

/-- The step with all that was attached to it. -/
def OpenStep.close (s : OpenStep) : Step :=
  match s.attachment with
  | .bare => { kind := s.kind, text := s.text, line := s.line }
  | .table t => { kind := s.kind, text := s.text, table := some t.close, line := s.line }
  | .afterTable t => { kind := s.kind, text := s.text, table := some t, line := s.line }
  | .docString t .. => { kind := s.kind, text := s.text, table := t, line := s.line }
  | .afterDocString t text =>
    { kind := s.kind, text := s.text, table := t, docString := some text, line := s.line }

/-- What an open step does with a line. -/
inductive Offer
  /-- The line belongs to the step. -/
  | taken (s : OpenStep)
  /-- The line would have to belong to the step and does not. -/
  | refused (fault : Fault)
  /-- The line is not about the step. -/
  | passed

/-- A line that may open a doc string below the given table. -/
def OpenStep.offerMarker (s : OpenStep) (t : Option DataTable) (line : Text) : Offer :=
  if Text.trim line = docStringMarker then
    .taken { s with attachment := .docString t (line.takeWhile Text.isBlankChar) [] }
  else .passed

/-- Offer the next line to an open step. -/
def OpenStep.offer (s : OpenStep) (line : Text) : Offer :=
  match s.attachment with
  | .docString t indentation body =>
    if Text.trim line = docStringMarker then
      if indentation.isPrefixOf line then
        .taken { s with attachment := .afterDocString t (Text.join "\n" body.reverse) }
      else .refused .docStringEnd
    else if indentation.isPrefixOf line then
      .taken { s with
        attachment := .docString t indentation (line.drop indentation.length :: body) }
    else .refused .docStringLine
  | .bare =>
    if Text.isBlank line then .taken s
    else if DataTable.isRow line then
      .taken { s with attachment := .table { header := DataTable.cells line } }
    else s.offerMarker none line
  | .table t =>
    if Text.isBlank line then .taken { s with attachment := .afterTable t.close }
    else if DataTable.isRow line then
      match t.addRow (DataTable.cells line) with
      | .ok t => .taken { s with attachment := .table t }
      | .error e => .refused (.rowWidth e)
    else s.offerMarker (some t.close) line
  | .afterTable t =>
    if Text.isBlank line then .taken s else s.offerMarker (some t) line
  | .afterDocString .. => if Text.isBlank line then .taken s else .passed

/-! ### Blocks and features -/

/-- What a block of steps is read for. -/
inductive Role
  | background
  | scenario
  | outline
  deriving DecidableEq, Repr

/-- The section that has to follow a section of a block. -/
def Role.next? : Role → StepKind → Option StepKind
  | .background, _ => none
  | _, .context => some .action
  | _, .action => some .outcome
  | _, .outcome => none

/-- A block whose steps are being read. -/
structure Block where
  role : Role
  name : Text
  line : Nat
  steps : List Step := []

/-- The block as a scenario. -/
def Block.toScenario (b : Block) : Scenario :=
  { name := b.name, steps := b.steps.reverse, line := b.line }

/-- The block with one more step. -/
def Block.addStep (b : Block) (s : Step) : Block := { b with steps := s :: b.steps }

/-- A feature that is being read. -/
structure OpenFeature where
  name : Text
  line : Nat
  description : List Text := []
  background : Option Scenario := none
  scenarios : List Scenario := []
  outlines : List Outline := []

namespace OpenFeature

/-- The feature of all that was read. -/
def close (f : OpenFeature) : Feature :=
  { name := f.name
    background := f.background.map .scenario
    scenarios := f.scenarios.reverse.map .scenario
    outlines := f.outlines.reverse
    description := f.description.reverse
    line := f.line }

/-- The feature with one more line of its description. -/
def describe (f : OpenFeature) (line : Text) : OpenFeature :=
  { f with description := line :: f.description }

/-- Whether a feature has a block already. -/
def hasBlock (f : OpenFeature) : Bool :=
  f.background.isSome || !f.scenarios.isEmpty || !f.outlines.isEmpty

/-- The feature with a complete block that has no examples. -/
def addBlock (f : OpenFeature) (b : Block) : OpenFeature :=
  match b.role with
  | .background => { f with background := some b.toScenario }
  | .scenario => { f with scenarios := b.toScenario :: f.scenarios }
  | .outline => { f with outlines := { toScenario := b.toScenario } :: f.outlines }

/-- The feature with a complete outline. -/
def addOutline (f : OpenFeature) (b : Block) (examples : DataTable) : OpenFeature :=
  { f with
    outlines := { toScenario := b.toScenario, examples := some examples } :: f.outlines }

end OpenFeature

/-! ### The reader between two lines -/

/-- A place in a feature. -/
inductive Place
  /-- Between two blocks, or in the description. -/
  | body
  /-- At the head of a block, which needs its first step. -/
  | head (b : Block)
  /-- At a step of a block. -/
  | step (b : Block) (s : OpenStep)
  /-- Below the line that announces the examples of an outline. -/
  | examples (b : Block)
  /-- In the table of examples of an outline. -/
  | examplesTable (b : Block) (t : OpenTable)

/-- What the reader knows between two lines: how many lines it has read, the features that are
complete, and where in which feature it is. -/
structure ReaderState where
  line : Nat := 0
  features : List Feature := []
  current : Option (OpenFeature × Place) := none

/-- What has been read of a document: the complete features, the name of the feature that was being
read when the document was rejected, and why it was. -/
structure Reading where
  features : List Feature
  abandoned : Option Text := none
  rejection : Option Rejection := none

namespace ReaderState

/-- The document is rejected for its last line. -/
def reject (s : ReaderState) (fault : Fault) : Reading :=
  { features := s.features.reverse
    abandoned := s.current.map (·.1.name)
    rejection := some (.fault fault s.line) }

/-- The reader after one more line. -/
def advance (s : ReaderState) : ReaderState := { s with line := s.line + 1 }

/-- The reader at another place of the feature it is in. -/
def goto (s : ReaderState) (f : OpenFeature) (p : Place) : ReaderState :=
  { s with current := some (f, p) }

/-- The reader outside of all features, with one more that is complete. -/
def complete (s : ReaderState) (f : OpenFeature) : ReaderState :=
  { s with features := f.close :: s.features, current := none }

variable (k : KeywordTable) (s : ReaderState)

/-- A line outside of all features has to begin one. -/
def readFeature (line : Text) : Except Reading ReaderState :=
  let text := Text.trim line
  if k.Matches text .feature then
    .ok (s.goto { name := k.strip text .feature, line := s.line } .body)
  else .error (s.reject .expectedFeature)

/-- A line between two blocks begins the next feature or a block, or belongs to the description. -/
def readBody (f : OpenFeature) (line : Text) : Except Reading ReaderState :=
  let text := Text.trim line
  if k.Matches line .feature then (s.complete f).readFeature k line
  else if k.Matches text .background then
    if f.background.isSome then .error (s.reject .duplicateBackground)
    else .ok (s.goto f (.head { role := .background, name := [], line := s.line }))
  else if k.Matches text .outline then
    .ok (s.goto f (.head { role := .outline, name := k.strip text .outline, line := s.line }))
  else if k.Matches text .scenario then
    .ok (s.goto f (.head { role := .scenario, name := k.strip text .scenario, line := s.line }))
  else if f.hasBlock then .error (s.reject .unexpectedLine)
  else .ok (s.goto (f.describe text) .body)

/-- A line that has to be a step of the given section. -/
def readStep (f : OpenFeature) (b : Block) (kind : StepKind) (line : Text) :
    Except Reading ReaderState :=
  let text := Text.trim line
  if k.Matches text kind.category then
    .ok (s.goto f (.step b { kind, text := k.strip text kind.category, line := s.line }))
  else if k.Matches text .conjunction then
    .ok (s.goto f (.step b { kind, text := k.strip text .conjunction, line := s.line }))
  else .error (s.reject (.expectedStep kind))

/-- A line that has to announce the examples of an outline. -/
def readExamples (f : OpenFeature) (b : Block) (line : Text) : Except Reading ReaderState :=
  if k.Matches (Text.trim line) .examples then .ok (s.goto f (.examples b))
  else .error (s.reject .expectedExamples)

/-- A line behind a step: a conjunction continues the section, and any other line is looked at from
the section or the place that comes next. The block holds the step already. -/
def readAfterStep (f : OpenFeature) (b : Block) (kind : StepKind) (line : Text) :
    Except Reading ReaderState :=
  if k.Matches line .conjunction then s.readStep k f b kind line
  else
    match b.role.next? kind with
    | some kind => s.readStep k f b kind line
    | none =>
      match b.role with
      | .outline => s.readExamples k f b line
      | _ => s.readBody k (f.addBlock b) line

/-- Read the next line. -/
def read (line : Text) : Except Reading ReaderState :=
  let next := s.advance
  match s.current with
  | none => if Text.isBlank line then .ok next else next.readFeature k line
  | some (f, .body) => if Text.isBlank line then .ok next else next.readBody k f line
  | some (f, .head b) =>
    if Text.isBlank line then .ok next else next.readStep k f b .context line
  | some (f, .step b step) =>
    match step.offer line with
    | .taken step => .ok (next.goto f (.step b step))
    | .refused fault => .error (next.reject fault)
    | .passed => next.readAfterStep k f (b.addStep step.close) step.kind line
  | some (f, .examples b) =>
    if Text.isBlank line then .ok next
    else if DataTable.isRow line then
      .ok (next.goto f (.examplesTable b { header := DataTable.cells line }))
    else .error (s.reject .examplesWithoutTable)
  | some (f, .examplesTable b t) =>
    if Text.isBlank line then .ok (next.goto (f.addOutline b t.close) .body)
    else if DataTable.isRow line then
      match t.addRow (DataTable.cells line) with
      | .ok t => .ok (next.goto f (.examplesTable b t))
      | .error e => .error (next.reject (.rowWidth e))
    else next.readBody k (f.addOutline b t.close) line

/-- The document ends too early. -/
def endTooEarly : Reading :=
  { features := s.features.reverse
    abandoned := s.current.map (·.1.name)
    rejection := some .endOfInput }

/-- The document ends behind a complete feature. -/
def endBehind (f : OpenFeature) : Reading := { features := (f.close :: s.features).reverse }

/-- The document ends. -/
def finish : Reading :=
  match s.current with
  | none => { features := s.features.reverse }
  | some (f, .body) => s.endBehind f
  | some (_, .head _) => s.endTooEarly
  | some (f, .step b step) =>
    match step.attachment, step.kind, b.role with
    | .docString .., _, _ => s.endTooEarly
    | _, .outcome, .scenario => s.endBehind (f.addBlock (b.addStep step.close))
    | _, _, _ => s.endTooEarly
  | some (_, .examples _) => s.reject .examplesWithoutTable
  | some (f, .examplesTable b t) => s.endBehind (f.addOutline b t.close)

/-- Read the lines that are left, and the end. -/
def readAll : ReaderState → List Text → Reading
  | s, [] => s.finish
  | s, line :: rest =>
    match s.read k line with
    | .ok s => readAll s rest
    | .error r => r

/-- Read some lines, with more to come. -/
def readSome : ReaderState → List Text → Except Reading ReaderState
  | s, [] => .ok s
  | s, line :: rest =>
    match s.read k line with
    | .ok s => readSome s rest
    | .error r => .error r

theorem readAll_append (s : ReaderState) (ls more : List Text) :
    s.readAll k (ls ++ more) =
      match s.readSome k ls with
      | .ok s => s.readAll k more
      | .error r => r := by
  induction ls generalizing s with
  | nil => rfl
  | cons line rest ih =>
    simp only [List.cons_append, readAll, readSome]
    cases s.read k line with
    | ok s => exact ih s
    | error r => rfl

end ReaderState

/-- Read a document. -/
def KeywordTable.read (k : KeywordTable) (lines : List Text) : Reading :=
  ReaderState.readAll k {} lines

/-- Reading may be interrupted after any line. -/
theorem KeywordTable.read_append (k : KeywordTable) (ls more : List Text) :
    k.read (ls ++ more) =
      match ReaderState.readSome k {} ls with
      | .ok s => s.readAll k more
      | .error r => r :=
  ReaderState.readAll_append k {} ls more

end FeatureDocs
