import FeatureDocs.Proofs.Descent
import FeatureDocs.Proofs.Grammar

/-!
# Runs of a descent

A production of the descent either gives a value or rejects the document, and in both cases it has
done nothing but read lines: this is `Reads`, and there is one rule for each way to put productions
together. A production that gives a value is followed further with `bind_ok`.
-/

namespace FeatureDocs.Descent

namespace State

/-- The number of lines that were read. -/
abbrev position (s : State) : Nat := s.cursor.position

/-- The lines that are left. -/
def texts (s : State) : List Text := s.cursor.lines.drop s.position

/-- The lines that are left, with their numbers. -/
def lines (s : State) : List Line := numberFrom s.position s.texts

/-- The state after one more line, if there is one. -/
def step (s : State) : State :=
  match s.cursor.next with
  | .ok (_, c) => { s with cursor := c, visited := c.position :: s.visited }
  | .error _ => s

variable {s s' : State} {text : Text} {rest : List Text}

lemma position_lt (h : s.texts = text :: rest) : s.position < s.cursor.lines.length := by
  by_contra hle
  rw [texts, List.drop_eq_nil_of_le (Nat.le_of_not_lt hle)] at h
  exact absurd h (by simp)

/-- The next line that is left, and the lines behind it. -/
lemma drop_eq (h : s.texts = text :: rest) :
    s.cursor.lines.get ⟨s.position, position_lt h⟩ = text ∧
      s.cursor.lines.drop (s.position + 1) = rest := by
  have hd := List.drop_eq_getElem_cons (position_lt h)
  rw [← texts, h, List.cons.injEq] at hd
  exact ⟨hd.1.symm, hd.2.symm⟩

lemma next_eq (h : s.texts = text :: rest) :
    s.cursor.next = .ok (text, ⟨s.cursor.lines, s.position + 1, position_lt h⟩) := by
  have hp := position_lt h
  have htext : s.cursor.lines[s.position] = text := (drop_eq h).1
  simp only [Cursor.next, hp, dite_true, htext]

/-- Reading a line moves the cursor and remembers where it was. -/
lemma step_eq (h : s.texts = text :: rest) :
    s.step =
      { s with
        cursor := ⟨s.cursor.lines, s.position + 1, position_lt h⟩
        visited := (s.position + 1) :: s.visited } := by
  rw [step, next_eq h]

lemma texts_step (h : s.texts = text :: rest) : s.step.texts = rest := by
  rw [step_eq h]
  exact (drop_eq h).2

lemma position_step (h : s.texts = text :: rest) : s.step.position = s.position + 1 := by
  rw [step_eq h]

/-- The next line is numbered by the place of the cursor behind it. -/
lemma lines_step (h : s.texts = text :: rest) : s.lines = ⟨s.position + 1, text⟩ :: s.step.lines := by
  rw [lines, h, numberFrom_cons, lines, texts_step h, position_step h]

lemma lines_nil (h : s.texts = []) : s.lines = [] := by rw [lines, h, numberFrom_nil]

/-- The next line that is left, seen with its number. -/
lemma of_lines_eq_cons {l : Line} {ls : List Line} (h : s.lines = l :: ls) :
    ∃ rest, s.texts = l.text :: rest ∧ l.number = s.position + 1 ∧ s.step.lines = ls := by
  cases ht : s.texts with
  | nil => rw [lines_nil ht] at h; exact absurd h (by simp)
  | cons text rest =>
    rw [lines_step ht, List.cons.injEq] at h
    obtain ⟨rfl, hls⟩ := h
    exact ⟨rest, rfl, rfl, hls⟩

lemma texts_eq_nil (h : s.lines = []) : s.texts = [] := by
  cases ht : s.texts with
  | nil => rfl
  | cons text rest => rw [lines_step ht] at h; exact absurd h (by simp)

/-- A condition on the next line, with or without its number. -/
lemma forall_head_iff {p : Text → Prop} :
    (∀ l ∈ s.lines.head?, p l.text) ↔ ∀ t ∈ s.texts.head?, p t := by
  cases ht : s.texts with
  | nil => simp [lines_nil ht]
  | cons text rest => simp [lines_step ht]

/-! ### Reading lines -/

/-- The second state comes from the first by reading lines. -/
inductive Leads : State → State → Prop
  | refl (s : State) : Leads s s
  | step {s s' : State} {text : Text} {rest : List Text} (h : s.texts = text :: rest)
      (hs : Leads s.step s') : Leads s s'

lemma Leads.one (h : s.texts = text :: rest) : s.Leads s.step := .step h (.refl _)

lemma Leads.trans {s'' : State} (h : s.Leads s') (h' : s'.Leads s'') : s.Leads s'' := by
  induction h with
  | refl s => exact h'
  | step ht _ ih => exact .step ht (ih h')

/-- Reading lines collects nothing, asks nothing and says nothing. -/
lemma Leads.same (h : s.Leads s') :
    s'.features = s.features ∧ s'.asked = s.asked ∧ s'.log = s.log ∧
      s'.cursor.lines = s.cursor.lines := by
  induction h with
  | refl s => exact ⟨rfl, rfl, rfl, rfl⟩
  | step ht _ ih => rwa [step_eq ht] at ih

/-- Reading lines leaves fewer of them, if any were read. -/
lemma Leads.length_le (h : s.Leads s') : s'.texts.length ≤ s.texts.length := by
  induction h with
  | refl s => exact Nat.le_refl _
  | step ht _ ih =>
    rw [texts_step ht] at ih
    rw [ht, List.length_cons]
    exact Nat.le_succ_of_le ih

/-- The cursor has only moved forward, within the lines. -/
def Forward (s : State) : Prop :=
  s.visited.Pairwise (· ≥ ·) ∧ ∀ n ∈ s.visited, n ≤ s.position

/-- Reading lines moves the cursor forward, from a state in which it has only moved forward. -/
lemma Leads.forward (h : s.Leads s') (hs : s.Forward) : s'.Forward := by
  induction h with
  | refl s => exact hs
  | step ht _ ih =>
    apply ih
    rw [step_eq ht]
    obtain ⟨hsorted, hle⟩ := hs
    refine ⟨List.pairwise_cons.mpr ⟨fun n hn => Nat.le_succ_of_le (hle n hn), hsorted⟩, ?_⟩
    intro n hn
    rcases List.mem_cons.mp hn with rfl | hn
    · exact Nat.le_refl _
    · exact Nat.le_succ_of_le (hle n hn)

end State

/-! ### Following a run -/

variable {α β : Type} {x : Descent α} {f : α → Descent β} {s s' : State} {a : α} {text : Text}
  {rest : List Text}

@[simp] lemma pure_apply : (pure a : Descent α) s = some (.ok a, s) := rfl

lemma get_apply : (get : Descent State) s = some (.ok s, s) := rfl

lemma modify_apply (g : State → State) :
    (modify g : Descent PUnit) s = some (.ok PUnit.unit, g s) := rfl

/-- Whether lines are left can be asked at any time. -/
lemma atEnd_apply : atEnd s = some (.ok s.texts.isEmpty, s) := by
  have h : s.cursor.atEnd = s.texts.isEmpty := by
    rw [Cursor.atEnd, State.texts, Bool.eq_iff_iff, beq_iff_eq, List.isEmpty_iff,
      List.drop_eq_nil_iff]
    exact ⟨fun h => h ▸ Nat.le_refl _, fun h => Nat.le_antisymm s.cursor.position_le h⟩
  rw [← h]
  rfl

/-- Looking at the next line moves nothing. -/
lemma peek_apply (h : s.texts = text :: rest) : peek s = some (.ok text, s) := by
  have hp : s.cursor.peek = .ok text := by
    have hlt := State.position_lt h
    have htext : s.cursor.lines[s.position] = text := (State.drop_eq h).1
    simp only [Cursor.peek, hlt, dite_true, htext]
  rw [peek, bind_ok get_apply, hp]
  rfl

lemma next_apply (h : s.texts = text :: rest) : next s = some (.ok text, s.step) := by
  rw [next, bind_ok get_apply, State.next_eq h, State.step_eq h]
  rfl

lemma command_apply (h : s.texts = text :: rest) :
    command s = some (.ok (Text.trim text), s.step) := by
  rw [command, bind_ok (next_apply h)]
  rfl

lemma row_apply (h : s.texts = text :: rest) :
    row s = some (.ok (DataTable.cells text), s.step) := by
  rw [row, bind_ok (next_apply h)]
  rfl

lemma addRow_apply {t t' : DataTable} {cells : List Text} (h : t.addRow cells = .ok t') :
    addRow t cells s = some (.ok t', s) := by
  rw [addRow, h]
  rfl

lemma line_apply : line s = some (.ok s.position, s) := rfl

lemma reject_apply (fault : Fault) :
    (reject fault : Descent α) s = some (.error (.rejected (.fault fault s.position)), s) := rfl

lemma atEnd_cons (h : s.texts = text :: rest) : atEnd s = some (.ok false, s) := by
  rw [atEnd_apply, h]
  rfl

lemma atEnd_nil (h : s.texts = []) : atEnd s = some (.ok true, s) := by
  rw [atEnd_apply, h]
  rfl

/-! ### Rules -/

/-- From the state `s` a production reads lines, and then gives a value as `Q` says, or rejects the
document as `E` says. -/
def Reads (x : Descent α) (s : State) (Q : α → State → Prop) (E : Rejection → Prop) : Prop :=
  ∃ s', s.Leads s' ∧
    ((∃ a, x s = some (.ok a, s') ∧ Q a s') ∨
      ∃ r, x s = some (.error (.rejected r), s') ∧ E r)

namespace Reads

variable {Q Q' : α → State → Prop} {R : β → State → Prop} {E E' : Rejection → Prop}

lemma pure (h : Q a s) : Reads (pure a) s Q E := ⟨s, .refl s, .inl ⟨a, rfl, h⟩⟩

lemma throw {r : Rejection} (h : E r) : Reads (throw (.rejected r) : Descent α) s Q E :=
  ⟨s, .refl s, .inr ⟨r, rfl, h⟩⟩

lemma reject {fault : Fault} (h : E (.fault fault s.position)) :
    Reads (reject fault : Descent α) s Q E :=
  ⟨s, .refl s, .inr ⟨_, rfl, h⟩⟩

/-- What is known behind a command can be weakened. -/
lemma mono (h : Reads x s Q E) (hQ : ∀ a s', s.Leads s' → Q a s' → Q' a s')
    (hE : ∀ r, E r → E' r) : Reads x s Q' E' := by
  obtain ⟨s', hs, ⟨a, hx, ha⟩ | ⟨r, hx, hr⟩⟩ := h
  · exact ⟨s', hs, .inl ⟨a, hx, hQ a s' hs ha⟩⟩
  · exact ⟨s', hs, .inr ⟨r, hx, hE r hr⟩⟩

/-- One production after another. -/
lemma bind (h : Reads x s Q E) (hE : ∀ r, E r → E' r)
    (hf : ∀ a s', s.Leads s' → Q a s' → Reads (f a) s' R E') : Reads (x >>= f) s R E' := by
  obtain ⟨s', hs, ⟨a, hx, ha⟩ | ⟨r, hx, hr⟩⟩ := h
  · obtain ⟨s'', hs', hrun⟩ := hf a s' hs ha
    exact ⟨s'', hs.trans hs', by rwa [bind_ok hx]⟩
  · exact ⟨s', hs, .inr ⟨r, bind_error hx, hE r hr⟩⟩

/-- A production whose run is known, before another one. -/
lemma after (hx : x s = some (.ok a, s')) (hs : s.Leads s') (hf : Reads (f a) s' R E) :
    Reads (x >>= f) s R E := by
  obtain ⟨s'', hs', hrun⟩ := hf
  exact ⟨s'', hs.trans hs', by rwa [bind_ok hx]⟩

/-- Whether lines are left decides how to go on. -/
lemma atEnd {f : Bool → Descent β} (hnil : s.texts = [] → Reads (f true) s R E)
    (hcons : ∀ text rest, s.texts = text :: rest → Reads (f false) s R E) :
    Reads (atEnd >>= f) s R E := by
  cases ht : s.texts with
  | nil => exact after (atEnd_nil ht) (.refl s) (hnil ht)
  | cons text rest => exact after (atEnd_cons ht) (.refl s) (hcons text rest ht)

lemma peek {f : Text → Descent β} (ht : s.texts = text :: rest) (hf : Reads (f text) s R E) :
    Reads (peek >>= f) s R E :=
  after (peek_apply ht) (.refl s) hf

lemma next {f : Text → Descent β} (ht : s.texts = text :: rest)
    (hf : Reads (f text) s.step R E) : Reads (next >>= f) s R E :=
  after (next_apply ht) (.one ht) hf

lemma command {f : Text → Descent β} (ht : s.texts = text :: rest)
    (hf : Reads (f (Text.trim text)) s.step R E) : Reads (command >>= f) s R E :=
  after (command_apply ht) (.one ht) hf

lemma row {f : List Text → Descent β} (ht : s.texts = text :: rest)
    (hf : Reads (f (DataTable.cells text)) s.step R E) : Reads (row >>= f) s R E :=
  after (row_apply ht) (.one ht) hf

lemma line {f : Nat → Descent β} (hf : Reads (f s.position) s R E) :
    Reads (line >>= f) s R E :=
  after line_apply (.refl s) hf

/-- What a production gives if it is known to give something. -/
lemma of_ok (h : Reads x s Q E) (hx : x s = some (.ok a, s')) : s.Leads s' ∧ Q a s' := by
  obtain ⟨s'', hs, ⟨b, hb, hq⟩ | ⟨r, hr, _⟩⟩ := h
  · rw [hx] at hb
    cases hb
    exact ⟨hs, hq⟩
  · rw [hx] at hr
    cases hr

end Reads

end FeatureDocs.Descent
