import FeatureDocs.Proofs.Moves

/-!
# Revised readings

Between two lines the reader looks neither at the steps that are complete nor at the numbers of the
lines. So both may be revised, and it goes on alike: reading and then revising is the same as
revising and then reading (`ReaderState.readAll_revised`). There is one equation for each part of
the reader, and each of them follows from those before it. The step that is open is the exception,
because the next line may belong to it or may close it; that the revision does no harm there is a
hypothesis (`Revision.Fits`).
-/

namespace FeatureDocs

/-! ### Revised features -/

/-- The scenario of any kind with what is common to all kinds changed. -/
def Member.map (g : Scenario → Scenario) : Member → Member
  | .scenario s => .scenario (g s)
  | .outline o => .outline { o with toScenario := g o.toScenario }

section Feature

variable (step : Step → Step) (number : Int → Int)

/-- The scenario with revised steps and line numbers. -/
def Scenario.revise (s : Scenario) : Scenario :=
  { s with steps := s.steps.map step, line := number s.line }

/-- The outline with revised steps and line numbers. -/
def Outline.revise (o : Outline) : Outline :=
  { o with toScenario := o.toScenario.revise step number }

/-- The feature with revised steps and line numbers. -/
def Feature.revise (f : Feature) : Feature :=
  { f with
    background := f.background.map (Member.map (Scenario.revise step number))
    scenarios := f.scenarios.map (Member.map (Scenario.revise step number))
    outlines := f.outlines.map (Outline.revise step number)
    line := number f.line }

end Feature

/-- The rejection, if it is for a line, for the one with the new number. -/
def Rejection.renumber (last : Nat → Nat) : Rejection → Rejection
  | .fault f line => .fault f (last line)
  | .endOfInput => .endOfInput

/-! ### Offers -/

/-- The offer about another open step. -/
def Offer.map (g : OpenStep → OpenStep) : Offer → Offer
  | .taken s => .taken (g s)
  | .refused fault => .refused fault
  | .passed => .passed

namespace OpenStep

/-- The open step on a line with another number. -/
def renumber (g : Nat → Nat) (s : OpenStep) : OpenStep := { s with line := g s.line }

variable (g : Nat → Nat) (s : OpenStep) (line : Text)

lemma offerMarker_renumber (t : Option DataTable) :
    (s.renumber g).offerMarker t line = (s.offerMarker t line).map (renumber g) := by
  unfold offerMarker
  split_ifs <;> rfl

/-- An open step does not look at the number of its line. -/
lemma offer_renumber : (s.renumber g).offer line = (s.offer line).map (renumber g) := by
  cases s with
  | mk kind text number attachment =>
    cases attachment with
    | bare =>
      simp only [offer, renumber]
      split_ifs
      · rfl
      · rfl
      · exact offerMarker_renumber g ⟨kind, text, number, .bare⟩ line none
    | table t =>
      simp only [offer, renumber]
      split_ifs
      · rfl
      · cases t.addRow (DataTable.cells line) <;> rfl
      · exact offerMarker_renumber g ⟨kind, text, number, .table t⟩ line (some t.close)
    | afterTable t =>
      simp only [offer, renumber]
      split_ifs
      · rfl
      · exact offerMarker_renumber g ⟨kind, text, number, .afterTable t⟩ line (some t)
    | docString t indentation body =>
      simp only [offer, renumber]
      split_ifs <;> rfl
    | afterDocString t text =>
      simp only [offer, renumber]
      split_ifs <;> rfl

variable {s line} in
/-- A line that belongs to a step leaves it where it is. -/
lemma line_of_taken {s' : OpenStep} (h : s.offer line = .taken s') : s'.line = s.line := by
  have hsame := offer_renumber (fun _ => s.line) s line
  rw [show s.renumber (fun _ => s.line) = s from rfl, h] at hsame
  have hs' : s' = s'.renumber fun _ => s.line := Offer.taken.inj hsame
  rw [hs']
  rfl

end OpenStep

/-! ### Revised states -/

/-- A way to revise complete steps, those that are still open, and the numbers of the lines that
they and all else stand on. -/
structure Revision where
  step : Step → Step
  openStep : OpenStep → OpenStep
  line : Nat → Nat
  number : Int → Int
  number_line : ∀ m : Nat, number m = line m
  new_openStep : ∀ kind text m, openStep { kind, text, line := m } = { kind, text, line := line m }
  kind_openStep : ∀ s, (openStep s).kind = s.kind
  closed_openStep : ∀ s, (openStep s).attachment.Closed ↔ s.attachment.Closed

variable (r : Revision) (last : Nat → Nat)

def Block.revise (b : Block) : Block :=
  { b with steps := b.steps.map r.step, line := r.line b.line }

def OpenFeature.revise (f : OpenFeature) : OpenFeature :=
  { f with
    background := f.background.map (Scenario.revise r.step r.number)
    scenarios := f.scenarios.map (Scenario.revise r.step r.number)
    outlines := f.outlines.map (Outline.revise r.step r.number)
    line := r.line f.line }

def Place.revise : Place → Place
  | .body => .body
  | .head b => .head (b.revise r)
  | .step b s => .step (b.revise r) (r.openStep s)
  | .examples b => .examples (b.revise r)
  | .examplesTable b t => .examplesTable (b.revise r) t

/-- What was read of a document after a revision, behind some more features, the last one first.
The line that a document is rejected for has a number of its own. -/
def Reading.revised (prev : List Feature) (x : Reading) : Reading :=
  { features := prev.reverse ++ x.features.map (Feature.revise r.step r.number)
    abandoned := x.abandoned
    rejection := x.rejection.map (Rejection.renumber last) }

/-- The reader after a revision, behind some more features, the last one first. The line that was
read last has a number of its own. -/
def ReaderState.revised (prev : List Feature) (s : ReaderState) : ReaderState :=
  { line := last s.line
    features := s.features.map (Feature.revise r.step r.number) ++ prev
    current := s.current.map fun (f, p) => (f.revise r, p.revise r) }

/-- The next state of the reader, or its verdict, after a revision. -/
def readRevised (prev : List Feature) : Except Reading ReaderState → Except Reading ReaderState
  | .ok s => .ok (s.revised r last prev)
  | .error x => .error (x.revised r last prev)

namespace Revision

/-- An open step may be closed before or after it is revised. -/
def Closes (step : OpenStep) : Prop := (r.openStep step).close = r.step step.close

/-- A revision does not interfere with the next line. The line gets the number below the last one,
also for what begins there; and a step that is open may be revised before or after it takes the line
or is closed by it. -/
structure Fits (s : ReaderState) (line : Text) : Prop where
  next : last (s.line + 1) = last s.line + 1
  begins : r.line (s.line + 1) = last (s.line + 1)
  offer : ∀ f b step, s.current = some (f, .step b step) →
    (r.openStep step).offer line = (step.offer line).map r.openStep
  close : ∀ f b step, s.current = some (f, .step b step) → step.offer line = .passed →
    r.Closes step

/-- A revision does not interfere with any of the next lines. -/
def FitsAll (k : KeywordTable) : ReaderState → List Text → Prop
  | _, [] => True
  | s, line :: rest => r.Fits last s line ∧ ∀ s', s.read k line = .ok s' → FitsAll k s' rest

/-- A revision does not interfere with the end of the document behind some lines. -/
def FitsEnd (k : KeywordTable) (s : ReaderState) (ls : List Text) : Prop :=
  ∀ s', s.readSome k ls = .ok s' → ∀ f b step, s'.current = some (f, .step b step) → r.Closes step

end Revision

/-! ### Closing -/

variable {r last}

lemma Block.toScenario_revise (b : Block) :
    (b.revise r).toScenario = b.toScenario.revise r.step r.number := by
  simp [Block.revise, Block.toScenario, Scenario.revise, r.number_line]

lemma Block.addStep_revise (b : Block) (s : Step) :
    (b.revise r).addStep (r.step s) = (b.addStep s).revise r := rfl

lemma OpenFeature.close_revise (f : OpenFeature) :
    (f.revise r).close = f.close.revise r.step r.number := by
  simp [OpenFeature.revise, OpenFeature.close, Feature.revise, Function.comp_def, Member.map,
    r.number_line]

lemma OpenFeature.addBlock_revise (f : OpenFeature) (b : Block) :
    (f.revise r).addBlock (b.revise r) = (f.addBlock b).revise r := by
  have hrole : (b.revise r).role = b.role := rfl
  unfold OpenFeature.addBlock
  rw [hrole]
  cases b.role <;> simp [OpenFeature.revise, Block.toScenario_revise, Outline.revise]

lemma OpenFeature.addOutline_revise (f : OpenFeature) (b : Block) (t : DataTable) :
    (f.revise r).addOutline (b.revise r) t = (f.addOutline b t).revise r := by
  simp [OpenFeature.addOutline, OpenFeature.revise, Block.toScenario_revise, Outline.revise]

lemma OpenFeature.hasBlock_revise (f : OpenFeature) : (f.revise r).hasBlock = f.hasBlock := by
  simp [OpenFeature.hasBlock, OpenFeature.revise]

/-! ### Reading a line -/

namespace ReaderState

variable {k : KeywordTable} (prev : List Feature) (s : ReaderState)

lemma reject_revised (fault : Fault) :
    (s.revised r last prev).reject fault = (s.reject fault).revised r last prev := by
  cases hc : s.current <;>
    simp [ReaderState.reject, ReaderState.revised, Reading.revised, Rejection.renumber,
      OpenFeature.revise, hc]

lemma goto_revised (f : OpenFeature) (p : Place) :
    (s.revised r last prev).goto (f.revise r) (p.revise r) =
      (s.goto f p).revised r last prev := rfl

lemma complete_revised (f : OpenFeature) :
    (s.revised r last prev).complete (f.revise r) = (s.complete f).revised r last prev := by
  simp [ReaderState.complete, ReaderState.revised, OpenFeature.close_revise]

lemma readExamples_revised (f : OpenFeature) (b : Block) (line : Text) :
    (s.revised r last prev).readExamples k (f.revise r) (b.revise r) line =
      readRevised r last prev (s.readExamples k f b line) := by
  simp only [ReaderState.readExamples, reject_revised]
  split_ifs <;> rfl

section Line

variable {s} (hline : r.line s.line = last s.line)
include hline

lemma readFeature_revised (line : Text) :
    (s.revised r last prev).readFeature k line =
      readRevised r last prev (s.readFeature k line) := by
  simp only [ReaderState.readFeature]
  split_ifs
  · simp [readRevised, ReaderState.goto, ReaderState.revised, OpenFeature.revise, Place.revise,
      hline]
  · rw [reject_revised]
    rfl

/-- A block that begins at the last line. -/
lemma goto_head_revised (f : OpenFeature) (role : Role) (name : Text) :
    (s.revised r last prev).goto (f.revise r)
        (.head { role, name, line := (s.revised r last prev).line }) =
      (s.goto f (.head { role, name, line := s.line })).revised r last prev := by
  rw [← goto_revised]
  simp [ReaderState.revised, Place.revise, Block.revise, hline]

/-- The revised machine reads a line in the body of a feature as the machine does, revised. -/
lemma readBody_revised (f : OpenFeature) (line : Text) :
    (s.revised r last prev).readBody k (f.revise r) line =
      readRevised r last prev (s.readBody k f line) := by
  have hbackground : (f.revise r).background.isSome = f.background.isSome := by
    simp [OpenFeature.revise]
  have hfeature := readFeature_revised (s := s.complete f) (k := k) prev hline line
  simp only [ReaderState.readBody, hbackground, OpenFeature.hasBlock_revise, complete_revised,
    hfeature, reject_revised, goto_head_revised prev hline]
  split_ifs <;> rfl

lemma readStep_revised (f : OpenFeature) (b : Block) (kind : StepKind) (line : Text) :
    (s.revised r last prev).readStep k (f.revise r) (b.revise r) kind line =
      readRevised r last prev (s.readStep k f b kind line) := by
  have hgoto : ∀ text, (s.revised r last prev).goto (f.revise r)
      (.step (b.revise r) { kind, text, line := (s.revised r last prev).line }) =
        (s.goto f (.step b { kind, text, line := s.line })).revised r last prev := by
    intro text
    rw [← goto_revised]
    simp [ReaderState.revised, Place.revise, r.new_openStep, hline]
  simp only [ReaderState.readStep, reject_revised, hgoto]
  split_ifs <;> rfl

/-- The revised machine reads a line behind a step as the machine does, revised. -/
lemma readAfterStep_revised (f : OpenFeature) (b : Block) (kind : StepKind) (line : Text) :
    (s.revised r last prev).readAfterStep k (f.revise r) (b.revise r) kind line =
      readRevised r last prev (s.readAfterStep k f b kind line) := by
  have hrole : (b.revise r).role = b.role := rfl
  simp only [ReaderState.readAfterStep, hrole, OpenFeature.addBlock_revise,
    readStep_revised prev hline]
  split_ifs
  · rfl
  · cases b.role.next? kind with
    | some kind' => rfl
    | none =>
      cases b.role with
      | background => exact readBody_revised prev hline (f.addBlock b) line
      | scenario => exact readBody_revised prev hline (f.addBlock b) line
      | outline => exact readExamples_revised prev s f b line

end Line

variable {s}

/-- After a revision that does not interfere with it, the next line is read alike. -/
lemma read_revised {line : Text} (h : r.Fits last s line) :
    (s.revised r last prev).read k line = readRevised r last prev (s.read k line) := by
  have hadvance : (s.revised r last prev).advance = s.advance.revised r last prev := by
    simp [ReaderState.advance, ReaderState.revised, h.next]
  -- what a line begins has its own number, which the revision moves as the line is moved
  have hline : r.line s.advance.line = last s.advance.line := h.begins
  rcases hs : s.current with _ | ⟨f, p⟩
  · have hc : (s.revised r last prev).current = none := by simp [ReaderState.revised, hs]
    simp only [ReaderState.read, hs, hc, hadvance, readFeature_revised prev hline]
    split_ifs <;> rfl
  · have hc : (s.revised r last prev).current = some (f.revise r, p.revise r) := by
      simp [ReaderState.revised, hs]
    cases p with
    | body =>
      simp only [ReaderState.read, hs, hc, Place.revise, hadvance, readBody_revised prev hline]
      split_ifs <;> rfl
    | head b =>
      simp only [ReaderState.read, hs, hc, Place.revise, hadvance, readStep_revised prev hline]
      split_ifs <;> rfl
    | step b step =>
      simp only [ReaderState.read, hs, hc, Place.revise, hadvance, h.offer f b step hs]
      cases hoffer : step.offer line with
      | taken step' => rfl
      | refused fault =>
        simp only [Offer.map, reject_revised]
        rfl
      | passed =>
        have hclose : (r.openStep step).close = r.step step.close := h.close f b step hs hoffer
        simp only [Offer.map, hclose, r.kind_openStep, Block.addStep_revise]
        exact readAfterStep_revised prev hline f (b.addStep step.close) step.kind line
    | examples b =>
      simp only [ReaderState.read, hs, hc, Place.revise, hadvance, reject_revised]
      split_ifs <;> rfl
    | examplesTable b t =>
      simp only [ReaderState.read, hs, hc, Place.revise, hadvance, reject_revised,
        OpenFeature.addOutline_revise, readBody_revised prev hline]
      split_ifs
      · rfl
      · cases t.addRow (DataTable.cells line) <;> rfl
      · rfl

/-! ### Reading to the end -/

variable (s)

lemma endTooEarly_revised :
    (s.revised r last prev).endTooEarly = s.endTooEarly.revised r last prev := by
  cases hc : s.current <;>
    simp [ReaderState.endTooEarly, ReaderState.revised, Reading.revised, Rejection.renumber,
      OpenFeature.revise, hc]

lemma endBehind_revised (f : OpenFeature) :
    (s.revised r last prev).endBehind (f.revise r) = (s.endBehind f).revised r last prev := by
  simp [ReaderState.endBehind, ReaderState.revised, Reading.revised, OpenFeature.close_revise]

/-- The revised machine ends as the machine does, revised, when closing the open step does. -/
lemma finish_revised
    (hclose : ∀ f b step, s.current = some (f, .step b step) → r.Closes step) :
    (s.revised r last prev).finish = s.finish.revised r last prev := by
  rcases hs : s.current with _ | ⟨f, p⟩
  · simp [ReaderState.finish, hs, ReaderState.revised, Reading.revised]
  · have hc : (s.revised r last prev).current = some (f.revise r, p.revise r) := by
      simp [ReaderState.revised, hs]
    cases p with
    | body =>
      simp only [ReaderState.finish, hs, hc, Place.revise, endBehind_revised]
    | head b =>
      simp only [ReaderState.finish, hs, hc, Place.revise, endTooEarly_revised]
    | step b step =>
      by_cases hends : b.role = .scenario ∧ step.kind = .outcome ∧ step.attachment.Closed
      · obtain ⟨hrole, hkind, hclosed⟩ := hends
        have hkind' : (r.openStep step).kind = .outcome := (r.kind_openStep step).trans hkind
        have hclosed' := (r.closed_openStep step).mpr hclosed
        have hclose' : (r.openStep step).close = r.step step.close := hclose f b step hs
        rw [finish_of_ends (.scenario hrole hkind hclosed) hs,
          finish_of_ends (.scenario (b := b.revise r) hrole hkind' hclosed') hc,
          hclose', Block.addStep_revise, OpenFeature.addBlock_revise, endBehind_revised]
      · have hends' : ¬ ((b.revise r).role = .scenario ∧ (r.openStep step).kind = .outcome ∧
            (r.openStep step).attachment.Closed) := by
          rwa [r.kind_openStep, r.closed_openStep]
        rw [finish_of_not_ends hs hends, finish_of_not_ends hc hends', endTooEarly_revised]
    | examples b =>
      simp only [ReaderState.finish, hs, hc, Place.revise, reject_revised]
    | examplesTable b t =>
      simp only [ReaderState.finish, hs, hc, Place.revise, OpenFeature.addOutline_revise,
        endBehind_revised]

variable {s}

/-- After a revision that does not interfere with them, some lines are read alike. -/
theorem readSome_revised {ls : List Text} (h : r.FitsAll last k s ls) :
    (s.revised r last prev).readSome k ls = readRevised r last prev (s.readSome k ls) := by
  induction ls generalizing s with
  | nil => rfl
  | cons line rest ih =>
    obtain ⟨hline, hrest⟩ := h
    simp only [ReaderState.readSome, read_revised prev hline]
    cases hread : s.read k line with
    | ok s' => exact ih (hrest s' hread)
    | error x => rfl

/-- A revision that keeps the numbers of some first lines, and does not interfere with them, leaves
what was read of them as it is. -/
lemma revised_eq_self {ls : List Text} {s' : ReaderState} (h : r.FitsAll id k {} ls)
    (hread : ReaderState.readSome k {} ls = .ok s') : s'.revised r id [] = s' := by
  have hsame := readSome_revised [] h
  rw [show ReaderState.revised r id [] {} = {} from rfl, hread] at hsame
  exact (Except.ok.inj hsame).symm

/-- After a revision that does not interfere with it, the rest of a document is read alike. -/
theorem readAll_revised {ls : List Text} (h : r.FitsAll last k s ls) (hend : r.FitsEnd k s ls) :
    (s.revised r last prev).readAll k ls = (s.readAll k ls).revised r last prev := by
  rw [← List.append_nil ls, ReaderState.readAll_append, ReaderState.readAll_append,
    readSome_revised prev h]
  cases hread : s.readSome k ls with
  | ok s' => exact finish_revised prev s' (hend s' hread)
  | error x => rfl

end ReaderState

end FeatureDocs
