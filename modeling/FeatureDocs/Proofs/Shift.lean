import FeatureDocs.Proofs.Revision

/-!
# Reading with other numbers of lines

Nothing the reader does depends on the number of its line or on the features before. Where the lines
that were read are moved apart, each by a distance of its own, and those that follow go on below the
last one, it reads the same, with all line numbers moved (`ReaderState.readAll_moved`): to move the
lines is a revision that interferes with nothing.

The case of one distance for all lines is that of a document behind `n` more lines and some more
features (`ReaderState.readAll_behind`).
-/

namespace FeatureDocs

variable (n : Nat) (d : Nat → Nat)

/-! ### Shifted features -/

/-- The step, `n` lines further down. -/
def Step.shift (s : Step) : Step := { s with line := s.line + n }

/-- The scenario, `n` lines further down. -/
def Scenario.shift (s : Scenario) : Scenario :=
  { s with steps := s.steps.map (Step.shift n), line := s.line + n }

/-- The outline, `n` lines further down. -/
def Outline.shift (o : Outline) : Outline := { o with toScenario := o.toScenario.shift n }

/-- The feature, `n` lines further down. -/
def Feature.shift (f : Feature) : Feature :=
  { f with
    background := f.background.map (Member.map (Scenario.shift n))
    scenarios := f.scenarios.map (Member.map (Scenario.shift n))
    outlines := f.outlines.map (Outline.shift n)
    line := f.line + n }

/-- The rejection, `n` lines further down if it is for a line. -/
def Rejection.shift : Rejection → Rejection
  | .fault f line => .fault f (line + n)
  | .endOfInput => .endOfInput

@[simp] lemma Rejection.kindName_shift (r : Rejection) : (r.shift n).kindName = r.kindName := by
  cases r <;> rfl

@[simp] lemma Rejection.reason_shift (r : Rejection) : (r.shift n).reason = r.reason := by
  cases r <;> rfl

/-! ### Moved features -/

/-- The step, if line `m` of its document becomes line `m + d m`. -/
def Step.move (s : Step) : Step := { s with line := s.line + d s.line.toNat }

/-- The scenario, if line `m` of its document becomes line `m + d m`. -/
def Scenario.move (s : Scenario) : Scenario :=
  { s with steps := s.steps.map (Step.move d), line := s.line + d s.line.toNat }

/-- The outline, if line `m` of its document becomes line `m + d m`. -/
def Outline.move (o : Outline) : Outline := { o with toScenario := o.toScenario.move d }

/-- The feature, if line `m` of its document becomes line `m + d m`. -/
def Feature.move (f : Feature) : Feature :=
  { f with
    background := f.background.map (Member.map (Scenario.move d))
    scenarios := f.scenarios.map (Member.map (Scenario.move d))
    outlines := f.outlines.map (Outline.move d)
    line := f.line + d f.line.toNat }

/-! ### Moved states -/

def OpenStep.move (s : OpenStep) : OpenStep := { s with line := s.line + d s.line }

def Block.move (b : Block) : Block :=
  { b with steps := b.steps.map (Step.move d), line := b.line + d b.line }

def OpenFeature.move (f : OpenFeature) : OpenFeature :=
  { f with
    background := f.background.map (Scenario.move d)
    scenarios := f.scenarios.map (Scenario.move d)
    outlines := f.outlines.map (Outline.move d)
    line := f.line + d f.line }

def Place.move : Place → Place
  | .body => .body
  | .head b => .head (b.move d)
  | .step b s => .step (b.move d) (s.move d)
  | .examples b => .examples (b.move d)
  | .examplesTable b t => .examplesTable (b.move d) t

/-- What was read of a document if its lines are moved, the last one by `n`, and if there are some
more features before, the last one first. -/
def Reading.moved (prev : List Feature) (r : Reading) : Reading :=
  { features := prev.reverse ++ r.features.map (Feature.move d)
    abandoned := r.abandoned
    rejection := r.rejection.map (Rejection.shift n) }

/-- The reader if the lines before are moved, the last one by `n`, and if there are some more
features before, the last one first. -/
def ReaderState.moved (prev : List Feature) (s : ReaderState) : ReaderState :=
  { line := s.line + n
    features := s.features.map (Feature.move d) ++ prev
    current := s.current.map fun (f, p) => (f.move d, p.move d) }

/-- The next state of the reader, or its verdict, if the lines before are moved. -/
def readMoved (prev : List Feature) : Except Reading ReaderState → Except Reading ReaderState
  | .ok s => .ok (s.moved n d prev)
  | .error r => .error (r.moved n d prev)

/-! ### Moving as a revision -/

variable {n d}

lemma OpenStep.close_move (s : OpenStep) : (s.move d).close = s.close.move d := by
  cases s with
  | mk kind text line attachment =>
    cases attachment <;> simp [OpenStep.move, OpenStep.close, Step.move]

variable (d) in
/-- To move the lines is to revise what was read. -/
def Revision.move : Revision where
  step := Step.move d
  openStep := OpenStep.move d
  line m := m + d m
  number j := j + d j.toNat
  number_line _ := rfl
  new_openStep _ _ _ := rfl
  kind_openStep _ := rfl
  closed_openStep _ := Iff.rfl

lemma Revision.closes_move (step : OpenStep) : (Revision.move d).Closes step := step.close_move

lemma Rejection.shift_eq_renumber : Rejection.shift n = Rejection.renumber (· + n) := by
  funext r
  cases r <;> rfl

lemma Reading.moved_eq_revised (prev : List Feature) (r : Reading) :
    r.moved n d prev = r.revised (.move d) (· + n) prev := by
  rw [Reading.moved, Rejection.shift_eq_renumber]
  rfl

namespace ReaderState

variable {k : KeywordTable} (prev : List Feature) (s : ReaderState)

lemma moved_eq_revised : s.moved n d prev = s.revised (.move d) (· + n) prev := by
  have hplace : Place.move d = Place.revise (.move d) := by
    funext p
    cases p <;> rfl
  rw [ReaderState.moved, hplace]
  rfl

lemma readMoved_eq_readRevised (x : Except Reading ReaderState) :
    readMoved n d prev x = readRevised (.move d) (· + n) prev x := by
  cases x with
  | ok s => exact congrArg Except.ok (moved_eq_revised prev s)
  | error r => exact congrArg Except.error (r.moved_eq_revised prev)

variable {s}

/-- Moving the lines does not interfere with those that are moved by the same distance. -/
lemma fits_move (hd : d (s.line + 1) = n) (line : Text) :
    (Revision.move d).Fits (· + n) s line where
  next := Nat.add_right_comm s.line 1 n
  begins := congrArg (s.line + 1 + ·) hd
  offer _ _ step _ := step.offer_renumber (fun m => m + d m) line
  close _ _ step _ _ := Revision.closes_move step

/-- Moving lines fits the lines behind, as far as each of them is moved by the same number. -/
lemma fitsAll_move {ls : List Text} (hd : ∀ m, s.line < m → m ≤ s.line + ls.length → d m = n) :
    (Revision.move d).FitsAll (· + n) k s ls := by
  induction ls generalizing s with
  | nil => trivial
  | cons line rest ih =>
    refine ⟨fits_move (hd _ (Nat.lt_succ_self _) (by simp)) line, fun s' hread => ih ?_⟩
    intro m hm hle
    have hline : s'.line = s.line + 1 := line_of_ok hread
    refine hd m (by omega) ?_
    rw [List.length_cons]
    omega

/-! ### Reading to the end -/

/-- Behind lines that are moved some lines are read alike. -/
lemma readSome_moved {ls : List Text} (hd : ∀ m, s.line < m → m ≤ s.line + ls.length → d m = n) :
    (s.moved n d prev).readSome k ls = readMoved n d prev (s.readSome k ls) := by
  rw [moved_eq_revised, readMoved_eq_readRevised]
  exact readSome_revised prev (fitsAll_move hd)

/-- Behind lines that are moved the rest of a document is read alike. -/
theorem readAll_moved (ls : List Text) (hd : ∀ m, s.line < m → d m = n) :
    (s.moved n d prev).readAll k ls = (s.readAll k ls).moved n d prev := by
  rw [moved_eq_revised, Reading.moved_eq_revised]
  exact readAll_revised prev (fitsAll_move fun m hm _ => hd m hm) fun _ _ _ _ step _ =>
    Revision.closes_move step

end ReaderState

/-! ### Behind other lines -/

variable (n)

/-- What was read of a document, as the end of one with `n` more lines and some more features, the
last one first. -/
def Reading.behind (prev : List Feature) (r : Reading) : Reading :=
  { features := prev.reverse ++ r.features.map (Feature.shift n)
    abandoned := r.abandoned
    rejection := r.rejection.map (Rejection.shift n) }

/-- The reader behind `n` more lines and some more features, the last one first. -/
def ReaderState.behind (prev : List Feature) (s : ReaderState) : ReaderState :=
  { line := s.line + n
    features := s.features.map (Feature.shift n) ++ prev
    current := s.current.map fun (f, p) => (f.move fun _ => n, p.move fun _ => n) }

namespace ReaderState

variable {n} {k : KeywordTable} (prev : List Feature) (s : ReaderState)

lemma behind_eq_revised :
    s.behind n prev = s.revised (.move fun _ => n) (· + n) prev :=
  moved_eq_revised (n := n) (d := fun _ => n) prev s

/-- Behind other lines the next line is read alike. -/
lemma read_behind (line : Text) :
    (s.behind n prev).read k line = readMoved n (fun _ => n) prev (s.read k line) := by
  rw [behind_eq_revised, readMoved_eq_readRevised]
  exact read_revised prev (fits_move rfl line)

/-- Ending behind earlier features is ending, behind them. -/
lemma finish_behind : (s.behind n prev).finish = s.finish.behind n prev := by
  rw [behind_eq_revised, finish_revised prev s fun _ _ step _ => Revision.closes_move step]
  exact (s.finish.moved_eq_revised prev).symm

/-- Behind other lines a document is read alike. -/
theorem readAll_behind (ls : List Text) :
    (s.behind n prev).readAll k ls = (s.readAll k ls).behind n prev :=
  readAll_moved prev ls fun _ _ => rfl

end ReaderState

end FeatureDocs
