import FeatureDocs.Proofs.Runs

/-!
# Places of the reader in a descent

The reader of lines keeps a place where the descent is inside a production. Here is what it does
with a line at each place: blank lines leave most places as they are, the two places at which a
table can begin treat its rows alike (`TableAt`), and a table or a doc string that has ended may as
well be seen as closed.
-/

namespace FeatureDocs

open Descent

/-- What is attached to a step of which nothing is open. -/
def attached : Option DataTable → Option Text → Attachment
  | none, none => .bare
  | some t, none => .afterTable t
  | t, some text => .afterDocString t text

/-- The rejection of a document in a feature, behind other features, the last one first. -/
def rejectedIn (features : List Feature) (f : OpenFeature) (r : Rejection) : Reading :=
  { features := features.reverse, abandoned := some f.name, rejection := some r }

@[simp] lemma attached_table (t : DataTable) : attached (some t) none = .afterTable t := rfl

lemma OpenStep.close_attached (kind : StepKind) (text : Text) (line : Nat)
    (table : Option DataTable) (docString : Option Text) :
    OpenStep.close ⟨kind, text, line, attached table docString⟩ =
      { kind, text, table, docString, line } := by
  cases table <;> cases docString <;> rfl

variable (k : KeywordTable)

/-- What becomes of the other lines when the reader of lines has read one. -/
def readRest (read : Except Reading ReaderState) (rest : List Text) : Reading :=
  match read with
  | .ok st => st.readAll k rest
  | .error r => r

@[simp] lemma readRest_ok (st : ReaderState) (rest : List Text) :
    readRest k (.ok st) rest = st.readAll k rest := rfl

@[simp] lemma readRest_error (r : Reading) (rest : List Text) : readRest k (.error r) rest = r := rfl

namespace Descent.State

/-- What the reader of lines makes of the lines that are left. -/
def reading (s : State) (features : List Feature) (current : Option (OpenFeature × Place)) :
    Reading :=
  ReaderState.readAll k ⟨s.position, features, current⟩ s.texts

variable {k} {s : State} {text : Text} {rest : List Text} {fs fs' : List Feature}
  {c c' : Option (OpenFeature × Place)}

lemma reading_nil (h : s.texts = []) :
    s.reading k fs c = (⟨s.position, fs, c⟩ : ReaderState).finish := by
  rw [reading, h, ReaderState.readAll]

lemma reading_cons (h : s.texts = text :: rest) :
    s.reading k fs c = readRest k (ReaderState.read k ⟨s.position, fs, c⟩ text) rest := by
  rw [reading, h, ReaderState.readAll]
  rfl

/-- A line that is read leads from one state of the reader to the next. -/
lemma reading_step (h : s.texts = text :: rest)
    (hr : ReaderState.read k ⟨s.position, fs, c⟩ text = .ok ⟨s.position + 1, fs', c'⟩) :
    s.reading k fs c = s.step.reading k fs' c' := by
  rw [reading_cons h, hr, readRest_ok, reading, position_step h, texts_step h]

lemma reading_error {r : Reading} (h : s.texts = text :: rest)
    (hr : ReaderState.read k ⟨s.position, fs, c⟩ text = .error r) : s.reading k fs c = r := by
  rw [reading_cons h, hr, readRest_error]

end Descent.State

/-! ### Blank lines -/

/-- A blank line leaves the place as it is. -/
def SkipsBlanks (c : Option (OpenFeature × Place)) : Prop :=
  ∀ n fs text, Text.isBlank text → ReaderState.read k ⟨n, fs, c⟩ text = .ok ⟨n + 1, fs, c⟩

lemma skipsBlanks_none : SkipsBlanks k none := by
  intro n fs text h
  simp [ReaderState.read, ReaderState.advance, h]

lemma skipsBlanks_body (f : OpenFeature) : SkipsBlanks k (some (f, .body)) := by
  intro n fs text h
  simp [ReaderState.read, ReaderState.advance, h]

lemma skipsBlanks_head (f : OpenFeature) (b : Block) : SkipsBlanks k (some (f, .head b)) := by
  intro n fs text h
  simp [ReaderState.read, ReaderState.advance, h]

lemma skipsBlanks_examples (f : OpenFeature) (b : Block) :
    SkipsBlanks k (some (f, .examples b)) := by
  intro n fs text h
  simp [ReaderState.read, ReaderState.advance, h]

/-- Behind a step and what is attached to it blank lines mean nothing either, for the step is not
closed by them. -/
lemma skipsBlanks_step (f : OpenFeature) (b : Block) (kind : StepKind) (text : Text) (line : Nat)
    (table : Option DataTable) (docString : Option Text) :
    SkipsBlanks k (some (f, .step b ⟨kind, text, line, attached table docString⟩)) := by
  intro n fs t h
  cases table <;> cases docString <;>
    simp [ReaderState.read, ReaderState.advance, ReaderState.goto, OpenStep.offer, attached, h]

/-! ### Tables -/

lemma not_isBlank_of_isRow {text : Text} (h : DataTable.isRow text) : ¬ Text.isBlank text :=
  fun hb => not_isRow_of_isBlank hb h

/-- A table may begin at the first place, and its rows are taken at the other ones. -/
structure TableAt (f : OpenFeature) (start : Place) (inside : OpenTable → Place) : Prop where
  blank : SkipsBlanks k (some (f, start))
  header : ∀ n fs text, DataTable.isRow text →
    ReaderState.read k ⟨n, fs, some (f, start)⟩ text =
      .ok ⟨n + 1, fs, some (f, inside { header := DataTable.cells text })⟩
  row : ∀ n fs t t' text, DataTable.isRow text → t.addRow (DataTable.cells text) = .ok t' →
    ReaderState.read k ⟨n, fs, some (f, inside t)⟩ text = .ok ⟨n + 1, fs, some (f, inside t')⟩
  width : ∀ n fs t e text, DataTable.isRow text → t.addRow (DataTable.cells text) = .error e →
    ReaderState.read k ⟨n, fs, some (f, inside t)⟩ text =
      .error (rejectedIn fs f (.fault (.rowWidth e) (n + 1)))

/-- A table may follow a step. -/
lemma tableAt_step (f : OpenFeature) (b : Block) (kind : StepKind) (text : Text) (line : Nat) :
    TableAt k f (.step b ⟨kind, text, line, attached none none⟩)
      fun t => .step b ⟨kind, text, line, .table t⟩ where
  blank := skipsBlanks_step k f b kind text line none none
  header n fs t h := by
    have hb := not_isBlank_of_isRow h
    simp [ReaderState.read, ReaderState.advance, ReaderState.goto, OpenStep.offer, attached, h, hb]
  row n fs t t' row h ht := by
    have hb := not_isBlank_of_isRow h
    simp [ReaderState.read, ReaderState.advance, ReaderState.goto, OpenStep.offer, h, hb, ht]
  width n fs t e row h ht := by
    have hb := not_isBlank_of_isRow h
    simp [ReaderState.read, ReaderState.advance, ReaderState.reject, rejectedIn, OpenStep.offer, h,
      hb, ht]

/-- A table has to follow the line that announces examples. -/
lemma tableAt_examples (f : OpenFeature) (b : Block) :
    TableAt k f (.examples b) (.examplesTable b) where
  blank := skipsBlanks_examples k f b
  header n fs t h := by
    have hb := not_isBlank_of_isRow h
    simp [ReaderState.read, ReaderState.advance, ReaderState.goto, h, hb]
  row n fs t t' row h ht := by
    have hb := not_isBlank_of_isRow h
    simp [ReaderState.read, ReaderState.advance, ReaderState.goto, h, hb, ht]
  width n fs t e row h ht := by
    have hb := not_isBlank_of_isRow h
    simp [ReaderState.read, ReaderState.advance, ReaderState.reject, rejectedIn, h, hb, ht]

/-! ### Doc strings -/

section DocStrings

variable {k} {n : Nat} {fs : List Feature} {f : OpenFeature} {b : Block} {kind : StepKind}
  {name : Text} {number : Nat} {t : Option DataTable} {indentation text : Text} {ls : List Text}

/-- A marker opens a doc string, below a table or not. -/
lemma read_marker (h : Text.trim text = docStringMarker) :
    ReaderState.read k ⟨n, fs, some (f, .step b ⟨kind, name, number, attached t none⟩)⟩ text =
      .ok ⟨n + 1, fs, some (f, .step b
        ⟨kind, name, number, .docString t (text.takeWhile Text.isBlankChar) []⟩)⟩ := by
  have hb := not_isBlank_of_trim_eq_marker h
  have hr := not_isRow_of_trim_eq_marker h
  cases t <;>
    simp [ReaderState.read, ReaderState.advance, ReaderState.goto, OpenStep.offer,
      OpenStep.offerMarker, attached, h, hb, hr]

/-- A line of a doc string is kept without the indentation of the marker. -/
lemma read_docLine (h : Text.trim text ≠ docStringMarker) (hi : indentation.isPrefixOf text) :
    ReaderState.read k
        ⟨n, fs, some (f, .step b ⟨kind, name, number, .docString t indentation ls⟩)⟩ text =
      .ok ⟨n + 1, fs, some (f, .step b
        ⟨kind, name, number, .docString t indentation (text.drop indentation.length :: ls)⟩)⟩ := by
  simp [ReaderState.read, ReaderState.advance, ReaderState.goto, OpenStep.offer, h, hi]

/-- A line that stands before the indentation is no line of the doc string. -/
lemma read_docLine_error (h : Text.trim text ≠ docStringMarker)
    (hi : ¬ indentation.isPrefixOf text) :
    ReaderState.read k
        ⟨n, fs, some (f, .step b ⟨kind, name, number, .docString t indentation ls⟩)⟩ text =
      .error (rejectedIn fs f (.fault .docStringLine (n + 1))) := by
  simp [ReaderState.read, ReaderState.advance, ReaderState.reject, rejectedIn, OpenStep.offer, h,
    hi]

/-- The second marker ends the doc string. -/
lemma read_docEnd (h : Text.trim text = docStringMarker) (hi : indentation.isPrefixOf text) :
    ReaderState.read k
        ⟨n, fs, some (f, .step b ⟨kind, name, number, .docString t indentation ls⟩)⟩ text =
      .ok ⟨n + 1, fs, some (f, .step b
        ⟨kind, name, number, attached t (some (Text.join "\n" ls.reverse))⟩)⟩ := by
  simp [ReaderState.read, ReaderState.advance, ReaderState.goto, OpenStep.offer, attached, h, hi]

/-- A second marker before the indentation is not allowed. -/
lemma read_docEnd_error (h : Text.trim text = docStringMarker)
    (hi : ¬ indentation.isPrefixOf text) :
    ReaderState.read k
        ⟨n, fs, some (f, .step b ⟨kind, name, number, .docString t indentation ls⟩)⟩ text =
      .error (rejectedIn fs f (.fault .docStringEnd (n + 1))) := by
  simp [ReaderState.read, ReaderState.advance, ReaderState.reject, rejectedIn, OpenStep.offer, h,
    hi]

end DocStrings

/-! ### Lines looked at from outside -/

variable {k} {s : State} {fs : List Feature} {f f' : OpenFeature} {b : Block} {kind : StepKind}
  {text : Text} {line n : Nat} {p p' : Place}

/-- Which step a line is does not depend on the place it was met at. -/
lemma readStep_place (p p' : Place) (t : Text) :
    ReaderState.readStep k ⟨n, fs, some (f, p)⟩ f b kind t =
      ReaderState.readStep k ⟨n, fs, some (f, p')⟩ f b kind t := by
  simp only [ReaderState.readStep, ReaderState.goto, ReaderState.reject, Option.map_some]

lemma readExamples_place (p p' : Place) (t : Text) :
    ReaderState.readExamples k ⟨n, fs, some (f, p)⟩ f b t =
      ReaderState.readExamples k ⟨n, fs, some (f, p')⟩ f b t := by
  simp only [ReaderState.readExamples, ReaderState.goto, ReaderState.reject, Option.map_some]

/-- What a line between two blocks is does not depend on the block that has ended. -/
lemma readBody_place (h : f.name = f'.name) (g : OpenFeature) (p p' : Place) (t : Text) :
    ReaderState.readBody k ⟨n, fs, some (f, p)⟩ g t =
      ReaderState.readBody k ⟨n, fs, some (f', p')⟩ g t := by
  simp only [ReaderState.readBody, ReaderState.goto, ReaderState.reject, ReaderState.complete,
    Option.map_some, h]

lemma readAfterStep_place (p p' : Place) (t : Text) :
    ReaderState.readAfterStep k ⟨n, fs, some (f, p)⟩ f b kind t =
      ReaderState.readAfterStep k ⟨n, fs, some (f, p')⟩ f b kind t := by
  simp only [ReaderState.readAfterStep, readStep_place p p', readExamples_place p p',
    readBody_place rfl _ p p']

/-! ### Ends of tables -/

section EndOfTable

variable {ls : List Text} (t : OpenTable) (hrow : ∀ l ∈ ls.head?, ¬ DataTable.isRow l)
include hrow

/-- A table of a step has ended where the next line is no row. -/
lemma readAll_table :
    ReaderState.readAll k ⟨n, fs, some (f, .step b ⟨kind, text, line, .table t⟩)⟩ ls =
      ReaderState.readAll k
        ⟨n, fs, some (f, .step b ⟨kind, text, line, attached (some t.close) none⟩)⟩ ls := by
  cases ls with
  | nil =>
    cases kind <;> cases hr : b.role <;>
      simp [ReaderState.readAll, ReaderState.finish, OpenStep.close, hr] <;> rfl
  | cons l rest =>
    have hl : ¬ DataTable.isRow l := hrow l rfl
    rw [ReaderState.readAll, ReaderState.readAll]
    by_cases hb : Text.isBlank l
    · simp [ReaderState.read, OpenStep.offer, ReaderState.goto, ReaderState.advance, hb]
    · by_cases hm : Text.trim l = docStringMarker
      · simp [ReaderState.read, OpenStep.offer, OpenStep.offerMarker, ReaderState.goto,
          ReaderState.advance, hb, hl, hm]
      · -- the line is about neither, and both steps close alike
        simp only [ReaderState.read, OpenStep.offer, OpenStep.offerMarker, ReaderState.advance, hb,
          hl, hm, attached_table, OpenStep.close, Bool.false_eq_true, if_false]
        rw [readAfterStep_place _ (.step b ⟨kind, text, line, .afterTable t.close⟩)]

/-- The examples of an outline have ended where the next line is no row. -/
lemma readAll_examplesTable :
    ReaderState.readAll k ⟨n, fs, some (f, .examplesTable b t)⟩ ls =
      ReaderState.readAll k ⟨n, fs, some (f.addOutline b t.close, .body)⟩ ls := by
  cases ls with
  | nil => rfl
  | cons l rest =>
    have hl : ¬ DataTable.isRow l := hrow l rfl
    rw [ReaderState.readAll, ReaderState.readAll]
    by_cases hb : Text.isBlank l
    · simp [ReaderState.read, ReaderState.goto, ReaderState.advance, hb]
    · simp only [ReaderState.read, ReaderState.advance, hb, hl, Bool.false_eq_true, if_false]
      have hname : f.name = (f.addOutline b t.close).name := rfl
      rw [readBody_place hname _ _ .body]

end EndOfTable

end FeatureDocs
