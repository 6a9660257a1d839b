import FeatureDocs.Proofs.Places

/-!
# Blank lines, tables and doc strings in a descent

For each production that reads blank lines, a table or a doc string: what it gives is what the
grammar says of the lines it has read, and the reader of lines goes on in the same way before and
after it (`_reads`). Where the grammar finds an item, the production gives it (`_apply`).
-/

namespace FeatureDocs

open Grammar

/-! ### Where gaps and rows end -/

/-- Blank lines are skipped as far as they go. -/
lemma Grammar.Gap.unique {input rest rest' : List Line} (h : Gap input rest) (h' : Gap input rest') :
    rest = rest' := by
  induction h with
  | stop hstop =>
    cases h' with
    | stop => rfl
    | blank hl _ => exact absurd hl (hstop _ rfl)
  | blank hl _ ih =>
    cases h' with
    | stop hstop => exact absurd hl (hstop _ rfl)
    | blank _ h' => exact ih h'

/-- A gap ends before a line that is not blank. -/
lemma Grammar.Gap.head {input rest : List Line} (h : Gap input rest) :
    ∀ l ∈ rest.head?, ¬ Text.isBlank l.text := by
  induction h with
  | stop h => exact h
  | blank _ _ ih => exact ih

lemma Grammar.Rows.head {width : Nat} {input rest : List Line} {rows : List (List Text)}
    (h : Rows width input rows rest) : ∀ l ∈ rest.head?, ¬ DataTable.isRow l.text := by
  induction h with
  | stop h => exact h
  | row _ _ _ ih => exact ih

/-- A table ends before a line that is no row. -/
lemma Grammar.Slot.head_table {input rest : List Line} {t : DataTable}
    (h : Slot Table (DataTable.isRow ·) input (some t) rest) :
    ∀ l ∈ rest.head?, ¬ DataTable.isRow l.text := by
  cases h with
  | present _ h =>
    cases h with
    | table _ hrows => exact hrows.head

namespace Descent

variable {s : State} {text : Text} {rest : List Text}

/-! ### Blank lines -/

/-- Skipping blank lines makes no difference where the reader of lines skips them too, and nothing
stops it. -/
lemma skipBlanks_reads {k : KeywordTable} {c : Option (OpenFeature × Place)}
    (hc : SkipsBlanks k c) (fs : List Feature) (s : State) :
    Reads skipBlanks s
      (fun _ s' => Gap s.lines s'.lines ∧ s.reading k fs c = s'.reading k fs c)
      fun _ => False := by
  induction ht : s.texts generalizing s with
  | nil =>
    rw [skipBlanks_eq]
    refine .after (atEnd_nil ht) (.refl s) (.pure ⟨.stop ?_, rfl⟩)
    simp [State.lines_nil ht]
  | cons text rest ih =>
    rw [skipBlanks_eq]
    refine .after (atEnd_cons ht) (.refl s) (.peek ht ?_)
    by_cases hb : Text.isBlank text
    · rw [if_pos hb]
      refine .next ht ((ih s.step (State.texts_step ht)).mono ?_ fun _ h => h)
      rintro _ s' - ⟨hgap, hr⟩
      constructor
      · rw [State.lines_step ht]
        exact .blank hb hgap
      · rw [State.reading_step ht (hc _ _ _ hb)]
        exact hr
    · rw [if_neg hb]
      refine .pure ⟨.stop ?_, rfl⟩
      simp [State.lines_step ht, hb]

lemma skipBlanks_apply {rest : List Line} (h : Gap s.lines rest) :
    ∃ s', s'.lines = rest ∧ skipBlanks s = some (.ok (), s') := by
  obtain ⟨s', -, ⟨_, hx, hgap, -⟩ | ⟨_, _, hfalse⟩⟩ :=
    skipBlanks_reads (skipsBlanks_none ⟨[], fun _ => []⟩) [] s
  · exact ⟨s', hgap.unique h, hx⟩
  · exact hfalse.elim

/-! ### Tables -/

lemma atRow_true (ht : s.texts = text :: rest) (h : DataTable.isRow text) :
    atRow s = some (.ok true, s) := by
  rw [atRow, bind_ok (atEnd_cons ht)]
  show (peek >>= fun text => pure (DataTable.isRow text) : Descent Bool) s = _
  rw [bind_ok (peek_apply ht), h]
  rfl

lemma atRow_false (h : ∀ l ∈ s.texts.head?, ¬ DataTable.isRow l) :
    atRow s = some (.ok false, s) := by
  cases ht : s.texts with
  | nil =>
    rw [atRow, bind_ok (atEnd_nil ht)]
    rfl
  | cons text rest =>
    have hrow : DataTable.isRow text = false := by simpa using h text (by simp [ht])
    rw [atRow, bind_ok (atEnd_cons ht)]
    show (peek >>= fun text => pure (DataTable.isRow text) : Descent Bool) s = _
    rw [bind_ok (peek_apply ht), hrow]
    rfl

/-- Whether the next line is a row or not. -/
lemma row_or_not (s : State) :
    (∃ text rest, s.texts = text :: rest ∧ DataTable.isRow text) ∨
      ∀ l ∈ s.texts.head?, ¬ DataTable.isRow l := by
  cases ht : s.texts with
  | nil => simp
  | cons text rest => by_cases h : DataTable.isRow text <;> simp [h]

/-- The rows of a table are read as the grammar has them, and so does the reader of lines; a row of
another width is rejected by both. -/
lemma rows_reads {k : KeywordTable} {f : OpenFeature} {start : Place} {inside : OpenTable → Place}
    (h : TableAt k f start inside) (fs : List Feature) (t : OpenTable) (s : State) :
    Reads (rows t.close) s
      (fun u s' => ∃ rs t', Rows t.header.length s.lines rs s'.lines ∧
        u = { header := t.header, rows := t.rows.reverse ++ rs } ∧ u = t'.close ∧
        s.reading k fs (some (f, inside t)) = s'.reading k fs (some (f, inside t')))
      fun r => s.reading k fs (some (f, inside t)) = rejectedIn fs f r := by
  induction hn : s.texts generalizing s t with
  | nil =>
    have hrow : ∀ l ∈ s.texts.head?, ¬ DataTable.isRow l := by simp [hn]
    rw [rows_eq]
    refine .after (atRow_false hrow) (.refl s) (.pure ⟨[], t, .stop ?_, ?_, rfl, rfl⟩)
    · exact State.forall_head_iff.mpr hrow
    · simp [OpenTable.close]
  | cons text rest ih =>
    rw [rows_eq]
    by_cases hrow : DataTable.isRow text
    · refine .after (atRow_true hn hrow) (.refl s) (.row hn ?_)
      by_cases hw : (DataTable.cells text).length = t.close.width
      · have hadd : t.addRow (DataTable.cells text) =
            .ok { t with rows := DataTable.cells text :: t.rows } := if_pos hw
        have hclose := OpenTable.addRow_close t (DataTable.cells text)
        rw [hadd] at hclose
        have hread := State.reading_step hn (h.row _ fs _ _ _ hrow hadd)
        rw [if_neg (not_not.mpr hw), hread]
        refine .after (addRow_apply hclose) (.refl _) ?_
        refine (ih _ s.step (State.texts_step hn)).mono ?_ fun _ hr => hr
        rintro _ s' - ⟨rs, t', hrs, rfl, hu, hr⟩
        refine ⟨DataTable.cells text :: rs, t', ?_, by simp, hu, hr⟩
        rw [State.lines_step hn]
        exact .row hrow hw hrs
      · have hadd : t.addRow (DataTable.cells text) =
            .error ⟨(DataTable.cells text).length, t.header.length⟩ := if_neg hw
        rw [if_pos hw, State.reading_error hn (h.width _ _ _ _ _ hrow hadd)]
        apply Reads.reject
        rw [State.position_step hn]
        rfl
    · have hrow' : ∀ l ∈ s.texts.head?, ¬ DataTable.isRow l := by simpa [hn] using hrow
      refine .after (atRow_false hrow') (.refl s) (.pure ⟨[], t, .stop ?_, ?_, rfl, rfl⟩)
      · exact State.forall_head_iff.mpr hrow'
      · simp [OpenTable.close]

/-- The rows that the grammar derives are read. -/
lemma rows_apply {width : Nat} {input rest : List Line} {rs : List (List Text)}
    (h : Rows width input rs rest) (hs : s.lines = input) (t : DataTable) (hw : t.width = width) :
    ∃ s', s'.lines = rest ∧ rows t s = some (.ok { t with rows := t.rows ++ rs }, s') := by
  induction h generalizing s t with
  | stop h =>
    subst hs
    rw [rows_eq, bind_ok (atRow_false (State.forall_head_iff.mp h))]
    exact ⟨s, rfl, by simp⟩
  | @row l input rest rs hl hlen _ ih =>
    obtain ⟨more, ht, -, hstep⟩ := State.of_lines_eq_cons hs
    have hwidth : (DataTable.cells l.text).length = t.width := hlen.trans hw.symm
    have hadd : t.addRow (DataTable.cells l.text) =
        .ok { t with rows := t.rows ++ [DataTable.cells l.text] } :=
      DataTable.addRow_eq_ok_iff.mpr ⟨hwidth, rfl⟩
    obtain ⟨s', hs', hx⟩ := ih hstep { t with rows := t.rows ++ [DataTable.cells l.text] } hw
    refine ⟨s', hs', ?_⟩
    rw [rows_eq, bind_ok (atRow_true ht hl), if_pos rfl, bind_ok (row_apply ht),
      if_neg (not_not.mpr hwidth), bind_ok (addRow_apply hadd)]
    apply hx.trans
    rw [List.append_assoc]
    rfl

/-- A table is read if a row follows, as the grammar has it. -/
lemma table?_reads {k : KeywordTable} {f : OpenFeature} {start : Place}
    {inside : OpenTable → Place} (h : TableAt k f start inside) (fs : List Feature) (s : State) :
    Reads table? s
      (fun t s' => Slot Table (DataTable.isRow ·) s.lines t s'.lines ∧
        match t with
        | none => s.reading k fs (some (f, start)) = s'.reading k fs (some (f, start))
        | some t => ∃ t' : OpenTable, t = t'.close ∧
            s.reading k fs (some (f, start)) = s'.reading k fs (some (f, inside t')))
      fun r => s.reading k fs (some (f, start)) = rejectedIn fs f r := by
  refine (skipBlanks_reads h.blank fs s).bind (fun _ h => h.elim) fun _ s₁ _ ⟨hgap, hr₁⟩ => ?_
  rw [hr₁]
  rcases row_or_not s₁ with ⟨text, rest, ht, hrow⟩ | hrow
  · refine .after (atRow_true ht hrow) (.refl s₁) (.row ht ?_)
    rw [State.reading_step ht (h.header _ _ _ hrow)]
    refine (rows_reads h fs { header := DataTable.cells text } s₁.step).bind (fun _ hr => hr) ?_
    rintro _ s₂ - ⟨rs, t', hrs, rfl, hu, hr₂⟩
    refine .pure ⟨.present hgap ?_, t', hu, hr₂⟩
    rw [State.lines_step ht]
    exact .table hrow hrs
  · refine .after (atRow_false hrow) (.refl s₁) (.pure ⟨.absent hgap ?_, rfl⟩)
    exact State.forall_head_iff.mpr hrow

/-- A table that the grammar derives is read, and none where it derives none. -/
lemma table?_apply {t : Option DataTable} {rest : List Line}
    (h : Slot Table (DataTable.isRow ·) s.lines t rest) :
    ∃ s', s'.lines = rest ∧ table? s = some (.ok t, s') := by
  cases h with
  | absent hgap hrow =>
    obtain ⟨s₁, rfl, hx⟩ := skipBlanks_apply hgap
    refine ⟨s₁, rfl, ?_⟩
    rw [table?, bind_ok hx, bind_ok (atRow_false (State.forall_head_iff.mp hrow))]
    rfl
  | present hgap htable =>
    obtain ⟨s₁, hs₁, hx⟩ := skipBlanks_apply hgap
    cases htable with
    | @table l input _ rs hl hrows =>
      obtain ⟨more, ht, -, hstep⟩ := State.of_lines_eq_cons hs₁
      obtain ⟨s₂, hs₂, hx₂⟩ := rows_apply hrows hstep { header := DataTable.cells l.text } rfl
      refine ⟨s₂, hs₂, ?_⟩
      rw [table?, bind_ok hx, bind_ok (atRow_true ht hl), if_pos rfl, bind_ok (row_apply ht),
        bind_ok hx₂]
      rfl

/-! ### Doc strings -/

/-- A marker that follows is seen. -/
lemma atMarker_true (ht : s.texts = text :: rest) (h : IsMarker text) :
    atMarker s = some (.ok true, s) := by
  have hm : Text.trim text = docStringMarker := h
  rw [atMarker, bind_ok (atEnd_cons ht)]
  show (peek >>= fun text => pure (decide (Text.trim text = docStringMarker)) : Descent Bool) s = _
  rw [bind_ok (peek_apply ht), decide_eq_true hm]
  rfl

lemma atMarker_false (h : ∀ l ∈ s.texts.head?, ¬ IsMarker l) :
    atMarker s = some (.ok false, s) := by
  cases ht : s.texts with
  | nil =>
    rw [atMarker, bind_ok (atEnd_nil ht)]
    rfl
  | cons text rest =>
    have hm : ¬ Text.trim text = docStringMarker := h text (by simp [ht])
    rw [atMarker, bind_ok (atEnd_cons ht)]
    show (peek >>= fun text => pure (decide (Text.trim text = docStringMarker)) : Descent Bool) s = _
    rw [bind_ok (peek_apply ht), decide_eq_false hm]
    rfl

/-- Whether the next line is a marker or not. -/
lemma marker_or_not (s : State) :
    (∃ text rest, s.texts = text :: rest ∧ IsMarker text) ∨
      ∀ l ∈ s.texts.head?, ¬ IsMarker l := by
  cases ht : s.texts with
  | nil => simp
  | cons text rest => by_cases h : IsMarker text <;> simp [h]

lemma needLine_cons (ht : s.texts = text :: rest) : needLine s = some (.ok (), s) := by
  rw [needLine, bind_ok (atEnd_cons ht)]
  rfl

lemma needLine_nil (ht : s.texts = []) :
    needLine s = some (.error (.rejected .endOfInput), s) := by
  rw [needLine, bind_ok (atEnd_nil ht)]
  rfl

/-- A line is needed, and there is one or the document ends too early. -/
lemma needLine_reads {α : Type} {x : Unit → Descent α} {Q : α → State → Prop} {E : Rejection → Prop}
    (hnil : s.texts = [] → E .endOfInput)
    (hcons : ∀ text rest, s.texts = text :: rest → Reads (x ()) s Q E) :
    Reads (needLine >>= x) s Q E := by
  cases ht : s.texts with
  | nil => exact ⟨s, .refl s, .inr ⟨_, bind_error (needLine_nil ht), hnil ht⟩⟩
  | cons text rest => exact .after (needLine_cons ht) (.refl s) (hcons text rest ht)

section DocStrings

variable {k : KeywordTable} {f : OpenFeature} {b : Block} {kind : StepKind} {name : Text}
  {number : Nat} {t : Option DataTable}

/-- The lines of a doc string are read up to its closing marker, and not further. -/
lemma body_reads (indentation : Text) (fs : List Feature) (ls : List Text) (s : State) :
    Reads (body indentation ls) s
      (fun ls' s' => ∃ contents text rest, ls' = ls ++ contents ∧ s'.texts = text :: rest ∧
        IsMarker text ∧
        (indentation <+: text → Body indentation s.lines contents s'.step.lines) ∧
        s.reading k fs (some (f, .step b
            ⟨kind, name, number, .docString t indentation ls.reverse⟩)) =
          s'.reading k fs (some (f, .step b
            ⟨kind, name, number, .docString t indentation ls'.reverse⟩)))
      fun r => s.reading k fs (some (f, .step b
          ⟨kind, name, number, .docString t indentation ls.reverse⟩)) =
        rejectedIn fs f r := by
  induction ht : s.texts generalizing s ls with
  | nil =>
    rw [body_eq]
    refine needLine_reads (fun _ => ?_) fun _ _ h => absurd (ht.symm.trans h) (by simp)
    rw [State.reading_nil ht]
    rfl
  | cons text rest ih =>
    rw [body_eq]
    refine needLine_reads (fun h => absurd (ht.symm.trans h) (by simp)) fun _ _ _ => .peek ht ?_
    by_cases hm : Text.trim text = docStringMarker
    · rw [if_pos hm]
      refine .pure ⟨[], text, rest, by simp, ht, hm, fun hi => ?_, rfl⟩
      rw [State.lines_step ht]
      exact .close hm hi
    · rw [if_neg hm]
      apply Reads.next ht
      by_cases hi : indentation.isPrefixOf text
      · rw [if_pos hi, State.reading_step ht (read_docLine hm hi)]
        -- the machine keeps the lines of the doc string backwards, the descent in their order
        have hrev : text.drop indentation.length :: ls.reverse =
            (ls ++ [text.drop indentation.length]).reverse := by simp
        rw [hrev]
        refine (ih _ s.step (State.texts_step ht)).mono ?_ fun _ h => h
        rintro _ s' - ⟨contents, close, more, rfl, ht', hm', hbody, hr⟩
        refine ⟨text.drop indentation.length :: contents, close, more, by simp, ht', hm',
          fun hclose => ?_, hr⟩
        rw [State.lines_step ht]
        refine .line hm ?_ (hbody hclose)
        exact (List.prefix_iff_eq_append.mp (List.isPrefixOf_iff_prefix.mp hi)).symm
      · rw [if_neg hi, State.reading_error ht (read_docLine_error hm hi)]
        apply Reads.reject
        rw [State.position_step ht]

/-- The lines of a doc string that the grammar derives are read, up to the second marker. -/
lemma body_apply {indentation : Text} {input rest : List Line} {contents : List Text}
    (h : Body indentation input contents rest) (hs : s.lines = input) (ls : List Text) :
    ∃ s' text more, s'.texts = text :: more ∧ s'.step.lines = rest ∧ indentation <+: text ∧
      body indentation ls s = some (.ok (ls ++ contents), s') := by
  induction h generalizing s ls with
  | @close l rest hm hi =>
    obtain ⟨more, ht, -, hstep⟩ := State.of_lines_eq_cons hs
    have hm' : Text.trim l.text = docStringMarker := hm
    refine ⟨s, l.text, more, ht, hstep, hi, ?_⟩
    rw [body_eq, bind_ok (needLine_cons ht), bind_ok (peek_apply ht), if_pos hm', List.append_nil]
    rfl
  | @line l input rest content contents hm hi _ ih =>
    obtain ⟨more, ht, -, hstep⟩ := State.of_lines_eq_cons hs
    obtain ⟨s', text, more', ht', hs', hi', hx⟩ := ih hstep (ls ++ [content])
    have hprefix : indentation.isPrefixOf l.text :=
      List.isPrefixOf_iff_prefix.mpr ⟨content, hi.symm⟩
    have hdrop : l.text.drop indentation.length = content := by rw [hi, List.drop_left]
    have hm' : ¬ Text.trim l.text = docStringMarker := hm
    refine ⟨s', text, more', ht', hs', hi', ?_⟩
    rw [body_eq, bind_ok (needLine_cons ht), bind_ok (peek_apply ht), if_neg hm',
      bind_ok (next_apply ht), if_pos hprefix, hdrop, hx, List.append_assoc]
    rfl

/-- A doc string is read if a marker follows, as the grammar has it. -/
lemma docString?_reads (fs : List Feature) (s : State) :
    Reads docString? s
      (fun d s' => Slot DocString IsMarker s.lines d s'.lines ∧
        s.reading k fs (some (f, .step b ⟨kind, name, number, attached t none⟩)) =
          s'.reading k fs (some (f, .step b ⟨kind, name, number, attached t d⟩)))
      fun r => s.reading k fs (some (f, .step b ⟨kind, name, number, attached t none⟩)) =
        rejectedIn fs f r := by
  refine (skipBlanks_reads (skipsBlanks_step k f b kind name number t none) fs s).bind
    (fun _ h => h.elim) fun _ s₁ _ ⟨hgap, hr₁⟩ => ?_
  rw [hr₁]
  rcases marker_or_not s₁ with ⟨text, rest, ht, hm⟩ | hm
  · obtain ⟨p, q, hp, hq, rfl⟩ := trim_eq_marker_iff.mp hm
    refine .after (atMarker_true ht hm) (.refl s₁) (.next ht ?_)
    rw [cut?_marker hp, State.reading_step ht (read_marker hm), takeWhile_marker hp]
    refine (body_reads p fs [] s₁.step).bind (fun _ hr => hr) ?_
    rintro _ s₂ - ⟨contents, text, more, rfl, ht₂, hm₂, hbody, hr₂⟩
    rw [List.reverse_nil] at hr₂
    rw [hr₂]
    refine .next ht₂ ?_
    by_cases hi : p.isPrefixOf text
    · rw [if_pos hi]
      refine .pure ⟨.present hgap ?_, ?_⟩
      · rw [State.lines_step ht]
        exact .docString hp hq rfl (hbody (List.isPrefixOf_iff_prefix.mp hi))
      · rw [State.reading_step ht₂ (read_docEnd hm₂ hi), List.reverse_reverse]
    · rw [if_neg hi, State.reading_error ht₂ (read_docEnd_error hm₂ hi)]
      apply Reads.reject
      rw [State.position_step ht₂]
  · refine .after (atMarker_false hm) (.refl s₁) (.pure ⟨.absent hgap ?_, rfl⟩)
    exact State.forall_head_iff.mpr hm

end DocStrings

/-- A doc string that the grammar derives is read, and none where it derives none. -/
lemma docString?_apply {d : Option Text} {rest : List Line}
    (h : Slot DocString IsMarker s.lines d rest) :
    ∃ s', s'.lines = rest ∧ docString? s = some (.ok d, s') := by
  cases h with
  | absent hgap hm =>
    obtain ⟨s₁, rfl, hx⟩ := skipBlanks_apply hgap
    refine ⟨s₁, rfl, ?_⟩
    rw [docString?, bind_ok hx, bind_ok (atMarker_false (State.forall_head_iff.mp hm))]
    rfl
  | present hgap hdoc =>
    obtain ⟨s₁, hs₁, hx⟩ := skipBlanks_apply hgap
    cases hdoc with
    | @docString l input _ indentation behind contents hi hb hl hbody =>
      obtain ⟨more, ht, -, hstep⟩ := State.of_lines_eq_cons hs₁
      obtain ⟨s₂, text, more₂, ht₂, hs₂, hi₂, hx₂⟩ := body_apply hbody hstep []
      have hm : IsMarker l.text := trim_eq_marker_iff.mpr ⟨indentation, behind, hi, hb, hl⟩
      have hcut : Text.cut? docStringMarker l.text = some (indentation, behind) := by
        rw [hl, cut?_marker hi]
      refine ⟨s₂.step, hs₂, ?_⟩
      rw [docString?, bind_ok hx, bind_ok (atMarker_true ht hm), if_pos rfl,
        bind_ok (next_apply ht), hcut]
      show (body indentation [] >>= _ : Descent (Option Text)) s₁.step = _
      rw [bind_ok hx₂, bind_ok (next_apply ht₂), if_pos (List.isPrefixOf_iff_prefix.mpr hi₂)]
      rfl

end Descent

end FeatureDocs
