import FeatureDocs.Keyword.Packaged
import FeatureDocs.Proofs.Blocks

/-!
# Tables in a document

A table is written with one line for each row: a bar, the cells with bars between them, and a bar
that closes the row. Each cell may stand between blank text, and so may the whole row. What is
written is read back: the header, the rows in their order, and nothing of the lines behind them; and
a row of another width is found where it stands (`WrittenTable.read_back`).
-/

namespace FeatureDocs

namespace DataTable

/-! ### Rows as they are written -/

/-- A cell with the blank text around it. -/
structure WrittenCell where
  before : Text
  text : Text
  behind : Text
  isBlank_before : Text.isBlank before
  isBlank_behind : Text.isBlank behind
  trim_text : Text.trim text = text
  bar_not_mem : bar ∉ text

/-- What stands between two bars. -/
def WrittenCell.padded (c : WrittenCell) : Text := c.before ++ c.text ++ c.behind

/-- Cells with the blank text around their row. -/
structure WrittenRow where
  indentation : Text
  cells : List WrittenCell
  trailing : Text
  isBlank_indentation : Text.isBlank indentation
  isBlank_trailing : Text.isBlank trailing
  cells_ne_nil : cells ≠ []

namespace WrittenRow

/-- The texts of the cells. -/
def texts (r : WrittenRow) : List Text := r.cells.map (·.text)

/-- The number of cells. -/
def width (r : WrittenRow) : Nat := r.cells.length

/-- The line of a row. -/
def line (r : WrittenRow) : Text :=
  r.indentation ++ (bar :: Text.join [bar] (r.cells.map (·.padded)) ++ [bar]) ++ r.trailing

end WrittenRow

lemma not_isBlankChar_bar : ¬ Text.isBlankChar bar := by decide

lemma bar_not_mem_of_isBlank {t : Text} (h : Text.isBlank t) : bar ∉ t :=
  fun hmem => not_isBlankChar_bar (Text.isBlank_iff.mp h bar hmem)

namespace WrittenCell

variable (c : WrittenCell)

lemma bar_not_mem_padded : bar ∉ c.padded := by
  simp only [padded, List.mem_append, not_or]
  exact ⟨⟨bar_not_mem_of_isBlank c.isBlank_before, c.bar_not_mem⟩,
    bar_not_mem_of_isBlank c.isBlank_behind⟩

lemma trim_padded : Text.trim c.padded = c.text := by
  rw [padded, Text.trim_append_right c.isBlank_behind, Text.trim_append_left c.isBlank_before,
    c.trim_text]

end WrittenCell

/-- Nothing is lost of a text between two bars. -/
lemma trim_between_bars (t : Text) : Text.trim (bar :: t ++ [bar]) = bar :: t ++ [bar] := by
  have hbar : Text.isBlankChar bar = false := by decide
  simp [Text.trim, Text.trimStart, Text.trimEnd, hbar]

namespace WrittenRow

variable (r : WrittenRow)

@[simp] lemma length_texts : r.texts.length = r.width := List.length_map _

lemma trim_line :
    Text.trim r.line = bar :: Text.join [bar] (r.cells.map (·.padded)) ++ [bar] := by
  rw [line, Text.trim_append_right r.isBlank_trailing, Text.trim_append_left r.isBlank_indentation,
    trim_between_bars]

/-- A written row is read as a row. -/
@[simp] lemma isRow_line : isRow r.line := by
  rw [isRow, trim_line]
  rfl

/-- The bars at both ends are taken off, and no other ones: also an empty cell at an end keeps its
place. -/
@[simp] lemma cells_line : DataTable.cells r.line = r.texts := by
  have hsplit : Text.splitOn bar (Text.join [bar] (r.cells.map (·.padded))) =
      r.cells.map (·.padded) := by
    refine List.splitOn_intercalate bar ?_ (by simpa using r.cells_ne_nil)
    rintro l hl hbar
    obtain ⟨c, -, rfl⟩ := List.mem_map.mp hl
    exact c.bar_not_mem_padded hbar
  have hlast : (Text.join [bar] (r.cells.map (·.padded)) ++ [bar]).getLast? = some bar := by simp
  rw [DataTable.cells, trim_line]
  simp only [List.cons_append, List.drop_succ_cons, List.drop_zero, hlast, if_true,
    List.dropLast_concat, hsplit, List.map_map, texts]
  exact List.map_congr_left fun c _ => c.trim_padded

end WrittenRow

/-! ### Tables as they are written -/

/-- A header and rows, behind blank lines. -/
structure WrittenTable where
  blanks : List Text
  header : WrittenRow
  rows : List WrittenRow
  isBlank_blanks : ∀ l ∈ blanks, Text.isBlank l

namespace WrittenTable

/-- The lines of a table, with those that follow. -/
def linesBefore (w : WrittenTable) (rest : List Text) : List Text :=
  w.blanks ++ w.header.line :: (w.rows.map (·.line) ++ rest)

/-- The number of lines down to the row with the given number, counted from one. -/
def linesTo (w : WrittenTable) (row : Nat) : Nat := w.blanks.length + 1 + row

/-- The table that is written. -/
def table (w : WrittenTable) : DataTable :=
  { header := w.header.texts, rows := w.rows.map (·.texts) }

end WrittenTable

end DataTable

open DataTable

/-! ### By descent -/

namespace Descent

variable {s : State} {rest : List Text}

lemma State.Leads.position_eq {s' : State} (h : s.Leads s') :
    s'.position + s'.texts.length = s.position + s.texts.length := by
  induction h with
  | refl s => rfl
  | step ht _ ih =>
    rw [ih, State.texts_step ht, State.position_step ht, ht, List.length_cons]
    omega

/-- Blank lines do not matter to what is read behind them. -/
lemma skipBlanks_append {blanks : List Text} (hblanks : ∀ l ∈ blanks, Text.isBlank l)
    (hs : s.texts = blanks ++ rest) :
    ∃ s', s.Leads s' ∧ s'.texts = rest ∧ skipBlanks s = skipBlanks s' := by
  induction blanks generalizing s with
  | nil => exact ⟨s, .refl s, hs, rfl⟩
  | cons l blanks ih =>
    obtain ⟨hl, hblanks⟩ := List.forall_mem_cons.mp hblanks
    obtain ⟨s', hlead, hrest, hskip⟩ := ih hblanks (State.texts_step hs)
    refine ⟨s', .step hs hlead, hrest, ?_⟩
    rw [← hskip]
    conv_lhs => rw [skipBlanks_eq]
    rw [bind_ok (atEnd_cons hs), if_neg Bool.false_ne_true, bind_ok (peek_apply hs), if_pos hl,
      bind_ok (next_apply hs)]

/-- Rows that are as wide as a table are added to it, one after the other. -/
lemma rows_append {rows : List WrittenRow} {t : DataTable} (hrows : ∀ r ∈ rows, r.width = t.width)
    (hs : s.texts = rows.map (·.line) ++ rest) :
    ∃ s', s.Leads s' ∧ s'.texts = rest ∧
      Descent.rows t s = Descent.rows { t with rows := t.rows ++ rows.map (·.texts) } s' := by
  induction rows generalizing s t with
  | nil => exact ⟨s, .refl s, hs, by simp⟩
  | cons r rows ih =>
    obtain ⟨hr, hrows⟩ := List.forall_mem_cons.mp hrows
    obtain ⟨s', hlead, hrest, hsame⟩ :=
      ih (t := { t with rows := t.rows ++ [r.texts] }) hrows (State.texts_step hs)
    refine ⟨s', .step hs hlead, hrest, ?_⟩
    have hlen : (cells r.line).length = t.width := by rw [r.cells_line, r.length_texts, hr]
    have hadd : t.addRow (cells r.line) = .ok { t with rows := t.rows ++ [r.texts] } :=
      addRow_eq_ok_iff.mpr ⟨hlen, by rw [r.cells_line]⟩
    rw [List.append_assoc] at hsame
    rw [rows_eq, bind_ok (atRow_true hs r.isRow_line), if_pos rfl, bind_ok (row_apply hs),
      if_neg (not_not.mpr hlen), bind_ok (addRow_apply hadd), hsame]
    rfl

/-- A table ends where no row comes next. -/
lemma rows_stop {t : DataTable} (hrow : ∀ l ∈ s.texts.head?, ¬ isRow l) :
    Descent.rows t s = some (.ok t, s) := by
  rw [rows_eq, bind_ok (atRow_false hrow)]
  rfl

/-- A row of another width is refused. -/
lemma rows_refuse {r : WrittenRow} {t : DataTable} (hs : s.texts = r.line :: rest)
    (hwidth : r.width ≠ t.width) :
    Descent.rows t s = some (.error (.rejected
      (.fault (.rowWidth ⟨r.width, t.width⟩) s.step.position)), s.step) := by
  have hlen : (cells r.line).length = r.width := by rw [r.cells_line, r.length_texts]
  rw [rows_eq, bind_ok (atRow_true hs r.isRow_line), if_pos rfl, bind_ok (row_apply hs), hlen,
    if_pos hwidth]
  exact reject_apply _

lemma bind_congr_left {α β : Type} {x x' : Descent α} {s' : State} (h : x s = x' s')
    (f : α → Descent β) : (x >>= f) s = (x' >>= f) s' := by
  show (x s).bind (fun p => ExceptT.bindCont f p.1 p.2) = _
  rw [h]
  rfl

/-- Down to some row, a table is read if the rows are as wide as its header. -/
lemma table?_append {w : WrittenTable} {good more : List WrittenRow}
    (hrows : w.rows = good ++ more) (hgood : ∀ r ∈ good, r.width = w.header.width)
    (hs : s.texts = w.linesBefore rest) :
    ∃ s', s.Leads s' ∧ s'.texts = more.map (·.line) ++ rest ∧
      table? s = (do
        let t ← Descent.rows { header := w.header.texts, rows := good.map (·.texts) }
        return some t : Descent (Option DataTable)) s' := by
  obtain ⟨s₁, hlead₁, hs₁, hskip⟩ := skipBlanks_append w.isBlank_blanks hs
  have hhead : ∀ l ∈ s₁.texts.head?, ¬ Text.isBlank l := by
    simpa [hs₁] using not_isBlank_of_isRow w.header.isRow_line
  have hs₂ : s₁.step.texts = good.map (·.line) ++ (more.map (·.line) ++ rest) := by
    rw [State.texts_step hs₁, hrows, List.map_append, List.append_assoc]
  obtain ⟨s', hlead₂, hs', hsame⟩ := rows_append (t := { header := w.header.texts })
    (fun r hr => (hgood r hr).trans w.header.length_texts.symm) hs₂
  refine ⟨s', hlead₁.trans (.step hs₁ hlead₂), hs', ?_⟩
  rw [table?, bind_congr_left hskip, bind_ok (skipBlanks_stay hhead),
    bind_ok (atRow_true hs₁ w.header.isRow_line), if_pos rfl, bind_ok (row_apply hs₁),
    w.header.cells_line, bind_congr_left hsame]
  rfl

/-- A table is read back, and nothing of what follows it. -/
lemma table?_written {w : WrittenTable} (hw : ∀ r ∈ w.rows, r.width = w.header.width)
    (hrest : ∀ l ∈ rest.head?, ¬ isRow l) (hs : s.texts = w.linesBefore rest) :
    ∃ s', s.Leads s' ∧ s'.texts = rest ∧ table? s = some (.ok (some w.table), s') := by
  obtain ⟨s', hlead, hs', htable⟩ := table?_append (List.append_nil _).symm hw hs
  rw [List.map_nil, List.nil_append] at hs'
  refine ⟨s', hlead, hs', ?_⟩
  rw [htable, bind_ok (rows_stop (hs' ▸ hrest))]
  rfl

/-- The first row of another width is refused where it stands. -/
lemma table?_refused {w : WrittenTable} {good more : List WrittenRow} {bad : WrittenRow}
    (hrows : w.rows = good ++ bad :: more) (hgood : ∀ r ∈ good, r.width = w.header.width)
    (hbad : bad.width ≠ w.header.width) (hs : s.texts = w.linesBefore rest) :
    ∃ s', s.Leads s' ∧ s'.texts = more.map (·.line) ++ rest ∧
      table? s = some (.error (.rejected
        (.fault (.rowWidth ⟨bad.width, w.header.width⟩) s'.position)), s') := by
  obtain ⟨s', hlead, hs', htable⟩ := table?_append hrows hgood hs
  have hwidth : w.header.texts.length = w.header.width := w.header.length_texts
  have hrefuse := rows_refuse (t := { header := w.header.texts, rows := good.map (·.texts) }) hs'
    (by rwa [width, hwidth])
  rw [width, hwidth] at hrefuse
  exact ⟨s'.step, hlead.trans (.one hs'), State.texts_step hs', by rw [htable, bind_error hrefuse]⟩

end Descent

/-! ### Line by line -/

section Lines

variable {k : KeywordTable} {n : Nat} {fs : List Feature} {f : OpenFeature} {start : Place}
  {inside : OpenTable → Place} {rest : List Text}

lemma SkipsBlanks.readAll_append {c : Option (OpenFeature × Place)} (hc : SkipsBlanks k c)
    {blanks : List Text} (hblanks : ∀ l ∈ blanks, Text.isBlank l) :
    ReaderState.readAll k ⟨n, fs, c⟩ (blanks ++ rest) =
      ReaderState.readAll k ⟨n + blanks.length, fs, c⟩ rest := by
  induction blanks generalizing n with
  | nil => rfl
  | cons l blanks ih =>
    obtain ⟨hl, hblanks⟩ := List.forall_mem_cons.mp hblanks
    rw [List.cons_append, ReaderState.readAll, hc n fs l hl]
    dsimp only
    rw [ih hblanks, List.length_cons, Nat.add_right_comm, Nat.add_assoc]

namespace TableAt

variable (h : TableAt k f start inside)
include h

/-- The machine takes written rows of the right width one by one. -/
lemma readAll_rows {rows : List WrittenRow} {t : OpenTable}
    (hrows : ∀ r ∈ rows, r.width = t.header.length) :
    ReaderState.readAll k ⟨n, fs, some (f, inside t)⟩ (rows.map (·.line) ++ rest) =
      ReaderState.readAll k ⟨n + rows.length, fs,
        some (f, inside { t with rows := (rows.map (·.texts)).reverse ++ t.rows })⟩ rest := by
  induction rows generalizing n t with
  | nil => rfl
  | cons r rows ih =>
    obtain ⟨hr, hrows⟩ := List.forall_mem_cons.mp hrows
    have hadd : t.addRow (cells r.line) = .ok { t with rows := r.texts :: t.rows } := by
      rw [r.cells_line]
      exact if_pos (r.length_texts.trans hr)
    rw [List.map_cons, List.cons_append, ReaderState.readAll,
      h.row n fs t _ r.line r.isRow_line hadd]
    dsimp only
    rw [ih (t := { t with rows := r.texts :: t.rows }) hrows]
    simp [Nat.add_assoc, Nat.add_comm 1]

/-- Down to some row, a table is read if the rows are as wide as its header. -/
lemma readAll_append {w : WrittenTable} {good more : List WrittenRow}
    (hrows : w.rows = good ++ more) (hgood : ∀ r ∈ good, r.width = w.header.width) :
    ReaderState.readAll k ⟨n, fs, some (f, start)⟩ (w.linesBefore rest) =
      ReaderState.readAll k ⟨n + w.linesTo good.length, fs,
        some (f, inside { header := w.header.texts, rows := (good.map (·.texts)).reverse })⟩
        (more.map (·.line) ++ rest) := by
  have hwidth : ∀ r ∈ good, r.width = w.header.texts.length :=
    fun r hr => (hgood r hr).trans w.header.length_texts.symm
  rw [WrittenTable.linesBefore, h.blank.readAll_append w.isBlank_blanks, ReaderState.readAll,
    h.header _ fs w.header.line w.header.isRow_line, w.header.cells_line, hrows, List.map_append,
    List.append_assoc]
  dsimp only
  rw [h.readAll_rows (t := { header := w.header.texts }) hwidth, List.append_nil,
    WrittenTable.linesTo, ← Nat.add_assoc, ← Nat.add_assoc]

/-- The first row of another width is refused where it stands. -/
lemma readAll_refused {w : WrittenTable} {good more : List WrittenRow} {bad : WrittenRow}
    (hrows : w.rows = good ++ bad :: more) (hgood : ∀ r ∈ good, r.width = w.header.width)
    (hbad : bad.width ≠ w.header.width) :
    ReaderState.readAll k ⟨n, fs, some (f, start)⟩ (w.linesBefore rest) =
      rejectedIn fs f (.fault (.rowWidth ⟨bad.width, w.header.width⟩)
        (n + w.linesTo (good.length + 1))) := by
  rw [h.readAll_append hrows hgood, List.map_cons, List.cons_append, ReaderState.readAll,
    h.width _ fs _ ⟨bad.width, w.header.width⟩ bad.line bad.isRow_line ?_]
  · rfl
  · rw [bad.cells_line, OpenTable.addRow, bad.length_texts, w.header.length_texts, if_neg hbad]

end TableAt

end Lines

/-! ### Tables are read back -/

namespace DataTable.WrittenTable

lemma length_linesBefore (w : WrittenTable) (rest : List Text) :
    (w.linesBefore rest).length = w.linesTo w.rows.length + rest.length := by
  simp only [linesBefore, linesTo, List.length_append, List.length_cons, List.length_map]
  omega

/-- Written rows that are as wide as their header are read as just that header and those rows, down
to the line behind the last of them: by descent, behind a step and for the examples of an outline.
The first row of another width makes the document be rejected at the line of that row. -/
theorem read_back (k : KeywordTable) (w : WrittenTable) (rest : List Text) :
    ((∀ r ∈ w.rows, r.width = w.header.width) → (∀ l ∈ rest.head?, ¬ isRow l) →
      (∀ s : Descent.State, s.texts = w.linesBefore rest →
        ∃ s', Descent.table? s = some (.ok (some w.table), s') ∧
          s'.cursor.lines = s.cursor.lines ∧
          s'.position = s.position + w.linesTo w.rows.length) ∧
      ∀ n fs f b,
        (∀ step : OpenStep, step.attachment = .bare →
          ReaderState.readAll k ⟨n, fs, some (f, .step b step)⟩ (w.linesBefore rest) =
            ReaderState.readAll k ⟨n + w.linesTo w.rows.length, fs,
              some (f, .step b { step with attachment := .afterTable w.table })⟩ rest) ∧
        ReaderState.readAll k ⟨n, fs, some (f, .examples b)⟩ (w.linesBefore rest) =
          ReaderState.readAll k ⟨n + w.linesTo w.rows.length, fs,
            some (f.addOutline b w.table, .body)⟩ rest) ∧
    ∀ good bad more, w.rows = good ++ bad :: more →
      (∀ r ∈ good, r.width = w.header.width) → bad.width ≠ w.header.width →
      let fault := Fault.rowWidth ⟨bad.width, w.header.width⟩
      (∀ s : Descent.State, s.texts = w.linesBefore rest →
        ∃ s', Descent.table? s = some (.error (.rejected
          (.fault fault (s.position + w.linesTo (good.length + 1)))), s')) ∧
      ∀ n fs f b,
        (∀ step : OpenStep, step.attachment = .bare →
          ReaderState.readAll k ⟨n, fs, some (f, .step b step)⟩ (w.linesBefore rest) =
            rejectedIn fs f (.fault fault (n + w.linesTo (good.length + 1)))) ∧
        ReaderState.readAll k ⟨n, fs, some (f, .examples b)⟩ (w.linesBefore rest) =
          rejectedIn fs f (.fault fault (n + w.linesTo (good.length + 1))) := by
  constructor
  · intro hw hrest
    -- all rows are good ones, and what stops the table is the line behind them
    have hrows : w.rows = w.rows ++ [] := (List.append_nil _).symm
    have hclose : OpenTable.close
        { header := w.header.texts, rows := (w.rows.map (·.texts)).reverse } = w.table := by
      rw [OpenTable.close, List.reverse_reverse]
      rfl
    refine ⟨fun s hs => ?descent, fun n fs f b => ⟨?step, ?examples⟩⟩
    case descent =>
      obtain ⟨s', hlead, hs', htable⟩ := Descent.table?_written hw hrest hs
      refine ⟨s', htable, hlead.same.2.2.2, ?_⟩
      have hposition := hlead.position_eq
      rw [hs, hs', length_linesBefore] at hposition
      omega
    case step =>
      rintro ⟨kind, text, line, _⟩ rfl
      refine ((tableAt_step k f b kind text line).readAll_append hrows hw).trans ?_
      exact (readAll_table _ hrest).trans (by rw [hclose]; rfl)
    case examples =>
      rw [(tableAt_examples k f b).readAll_append hrows hw]
      exact (readAll_examplesTable _ hrest).trans (by rw [hclose])
  · intro good bad more hrows hgood hbad
    refine ⟨fun s hs => ?descent, fun n fs f b => ⟨?step, ?examples⟩⟩
    case descent =>
      obtain ⟨s', hlead, hs', htable⟩ := Descent.table?_refused hrows hgood hbad hs
      have hposition := hlead.position_eq
      rw [hs, hs', length_linesBefore, hrows] at hposition
      -- the number comes from the lines that are left, since the descent only says where it stops
      simp only [linesTo, List.length_append, List.length_cons, List.length_map] at hposition
      have hrow : s'.position = s.position + w.linesTo (good.length + 1) := by
        rw [linesTo]
        omega
      exact ⟨s', hrow ▸ htable⟩
    case step =>
      rintro ⟨kind, text, line, _⟩ rfl
      exact (tableAt_step k f b kind text line).readAll_refused hrows hgood hbad
    case examples => exact (tableAt_examples k f b).readAll_refused hrows hgood hbad

/-- Cells at both ends and a whole row are empty but for blank text; and then a row is too short. -/
theorem read_back_padded :
    let rest : List Text := ["When d", "| e |"]
    let k := KeywordTable.ofEntry "en" Dataset.english
    ∃ w w' : WrittenTable,
      w.linesBefore rest = (["", " ", "  |\t\u00a0|b c |\t\u00a0|\u3000",
        "  |\t\u00a0|\t\u00a0|\t\u00a0|\u3000", "When d", "| e |"] : List Text) ∧
      w'.linesBefore rest = (["", " ", "  |\t\u00a0|b c |\t\u00a0|\u3000",
        "  |\t\u00a0|\t\u00a0|\t\u00a0|\u3000", "  |b c |b c |\u3000", "When d", "| e |"] :
          List Text) ∧
      (∀ s : Descent.State, s.texts = w.linesBefore rest →
        ∃ s', Descent.table? s =
          some (.ok (some ⟨["", "b c", ""], [["", "", ""]]⟩), s') ∧
          s'.position = s.position + 4) ∧
      (∀ f b, ReaderState.readAll k ⟨0, [], some (f, .examples b)⟩ (w.linesBefore rest) =
        ReaderState.readAll k ⟨4, [],
          some (f.addOutline b ⟨["", "b c", ""], [["", "", ""]]⟩, .body)⟩ rest) ∧
      ∀ f b, ReaderState.readAll k ⟨0, [], some (f, .examples b)⟩ (w'.linesBefore rest) =
        rejectedIn [] f (.fault (.rowWidth ⟨2, 3⟩) 5) := by
  intro rest k
  let empty : WrittenCell := ⟨"\t", "", "\u00a0", by decide, by decide, by decide, by decide⟩
  let full : WrittenCell := ⟨"", "b c", " ", by decide, by decide, by decide, by decide⟩
  let row (cells : List WrittenCell) (h : cells ≠ []) : WrittenRow :=
    ⟨"  ", cells, "\u3000", by decide, by decide, h⟩
  let short : WrittenRow := row [full, full] (by simp)
  let w : WrittenTable :=
    ⟨["", " "], row [empty, full, empty] (by simp), [row [empty, empty, empty] (by simp)],
      by decide⟩
  let w' : WrittenTable := { w with rows := w.rows ++ [short] }
  obtain ⟨hdescent, hlines⟩ := (read_back k w rest).1 (by decide) (by decide)
  have hrefused := (read_back k w' rest).2 w.rows short [] rfl (by decide) (by decide)
  refine ⟨w, w', by decide, by decide, fun s hs => ?_, fun f b => (hlines 0 [] f b).2,
    fun f b => (hrefused.2 0 [] f b).2⟩
  obtain ⟨s', htable, -, hposition⟩ := hdescent s hs
  exact ⟨s', htable, hposition⟩

end DataTable.WrittenTable

end FeatureDocs
