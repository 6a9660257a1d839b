import FeatureDocs.Document.Reading
import Mathlib.Tactic.Lemma
import Mathlib.Tactic.SplitIfs

/-!
# Where a feature ends

A feature ends at the end of the document or at a line that begins like the next feature, and it has
to be at one of four places then. At three of them the document may end as well; the fourth one,
behind the steps of a background, needs the line (`Ends`).
-/

namespace FeatureDocs

/-- Nothing of a doc string is open. -/
def Attachment.Closed : Attachment → Prop
  | .docString .. => False
  | _ => True

/-- Whether a doc string is open. -/
def ReaderState.inDocString (s : ReaderState) : Bool :=
  match s.current with
  | some (_, .step _ step) =>
    match step.attachment with
    | .docString .. => true
    | _ => false
  | _ => false

lemma ReaderState.inDocString_step {s : ReaderState} {f : OpenFeature} {b : Block}
    {step : OpenStep} (hc : s.current = some (f, .step b step)) :
    s.inDocString = false ↔ step.attachment.Closed := by
  rw [ReaderState.inDocString, hc]
  cases ha : step.attachment <;> simp [Attachment.Closed, ha]

/-- Whether a doc string is open after so many lines. -/
def ReaderState.docStringOpen (k : KeywordTable) (s : ReaderState) (ls : List Text) (n : Nat) :
    Bool :=
  match s.readSome k (ls.take n) with
  | .ok s => s.inDocString
  | .error _ => false

/-- Whether a doc string is open after so many lines of a document. -/
def KeywordTable.docStringOpen (k : KeywordTable) (ls : List Text) (n : Nat) : Bool :=
  ReaderState.docStringOpen k {} ls n

/-- At a place of a feature it may end, and is another one then. The flag says whether the document
may end there too. -/
inductive Ends : OpenFeature → Place → OpenFeature → Bool → Prop
  | body (f : OpenFeature) : Ends f .body f true
  | scenario {f : OpenFeature} {b : Block} {s : OpenStep} (hrole : b.role = .scenario)
      (hkind : s.kind = .outcome) (hclosed : s.attachment.Closed) :
      Ends f (.step b s) (f.addBlock (b.addStep s.close)) true
  | examples (f : OpenFeature) (b : Block) (t : OpenTable) :
      Ends f (.examplesTable b t) (f.addOutline b t.close) true
  | background {f : OpenFeature} {b : Block} {s : OpenStep} (hrole : b.role = .background)
      (hclosed : s.attachment.Closed) :
      Ends f (.step b s) (f.addBlock (b.addStep s.close)) false

namespace ReaderState

variable {k : KeywordTable} {s : ReaderState} {f g : OpenFeature} {p : Place} {line : Text}

/-! ### The end of the document -/

/-- Where a feature can end, the input can end behind it. -/
lemma finish_of_ends (h : Ends f p g true) (hc : s.current = some (f, p)) :
    s.finish = s.endBehind g := by
  cases h with
  | body => simp [ReaderState.finish, hc]
  | examples => simp [ReaderState.finish, hc]
  | @scenario b st hrole hkind hclosed =>
    cases ha : st.attachment with
    | docString => simp [Attachment.Closed, ha] at hclosed
    | _ => simp [ReaderState.finish, hc, hrole, hkind, ha]

/-- Where a feature ends in a background, the input ends too early. -/
lemma finish_of_ends_background (h : Ends f p g false) (hc : s.current = some (f, p)) :
    s.finish = s.endTooEarly := by
  cases h with
  | @background b st hrole hclosed =>
    cases ha : st.attachment with
    | docString => simp [Attachment.Closed, ha] at hclosed
    | _ => simp [ReaderState.finish, hc, hrole, ha]

/-- At a step a document may end only in the last section of a scenario. -/
lemma finish_of_not_ends {b : Block} {st : OpenStep} (hc : s.current = some (f, .step b st))
    (h : ¬ (b.role = .scenario ∧ st.kind = .outcome ∧ st.attachment.Closed)) :
    s.finish = s.endTooEarly := by
  simp only [ReaderState.finish, hc]
  split
  · rfl
  · next hkind hrole hopen =>
    refine absurd ⟨hrole, hkind, ?_⟩ h
    cases ha : st.attachment with
    | docString t indentation body => exact hopen t indentation body ha
    | _ => trivial
  · rfl

/-- A document that is accepted at its end stands at a place where it may end. -/
lemma ends_of_finish (hc : s.current = some (f, p)) (h : s.finish.rejection = none) :
    ∃ g, Ends f p g true := by
  cases p with
  | body => exact ⟨f, .body f⟩
  | head b => simp [ReaderState.finish, hc, ReaderState.endTooEarly] at h
  | examples b => simp [ReaderState.finish, hc, ReaderState.reject] at h
  | examplesTable b t => exact ⟨_, .examples f b t⟩
  | step b st =>
    have hends : st.kind = .outcome ∧ b.role = .scenario ∧ st.attachment.Closed := by
      cases ha : st.attachment <;> cases hk : st.kind <;> cases hr : b.role <;>
        simp_all [ReaderState.finish, ReaderState.endTooEarly, Attachment.Closed]
    obtain ⟨hkind, hrole, hclosed⟩ := hends
    exact ⟨_, .scenario hrole hkind hclosed⟩

/-! ### Lines behind a feature -/

/-- A blank line does not change what the feature is at its end. -/
lemma read_blank_of_ends (h : Ends f p g true) (hc : s.current = some (f, p))
    (hb : Text.isBlank line) :
    ∃ f' p', s.read k line = .ok ⟨s.line + 1, s.features, some (f', p')⟩ ∧ Ends f' p' g true := by
  cases h with
  | body =>
    refine ⟨f, .body, ?_, .body f⟩
    simp [ReaderState.read, ReaderState.advance, hc, hb]
  | examples b t =>
    refine ⟨f.addOutline b t.close, .body, ?_, .body _⟩
    simp [ReaderState.read, ReaderState.advance, ReaderState.goto, hc, hb]
  | @scenario b st hrole hkind hclosed =>
    cases ha : st.attachment with
    | docString => simp [Attachment.Closed, ha] at hclosed
    | table t =>
      refine ⟨f, .step b { st with attachment := .afterTable t.close }, ?_, ?_⟩
      · simp [ReaderState.read, ReaderState.advance, ReaderState.goto, OpenStep.offer, hc, hb, ha]
      · have hclose : st.close = OpenStep.close { st with attachment := .afterTable t.close } := by
          simp [OpenStep.close, ha]
        rw [hclose]
        exact .scenario hrole hkind trivial
    | _ =>
      refine ⟨f, .step b st, ?_, .scenario hrole hkind hclosed⟩
      simp [ReaderState.read, ReaderState.advance, ReaderState.goto, OpenStep.offer, hc, hb, ha]

end ReaderState

/-- A line that begins a feature and goes on with nothing that may be open before it. -/
structure BeginsFeature (k : KeywordTable) (line : Text) : Prop where
  raw : k.Matches line .feature
  trimmed : k.Matches (Text.trim line) .feature
  notConjunction : ¬ k.Matches line .conjunction
  notRow : ¬ DataTable.isRow line
  notMarker : Text.trim line ≠ docStringMarker

namespace ReaderState

variable {k : KeywordTable} {s : ReaderState} {f g : OpenFeature} {p : Place} {line : Text}

/-- Such a line ends the feature before it. -/
lemma read_begins_of_ends (h : Ends f p g true) (hc : s.current = some (f, p))
    (hb : ¬ Text.isBlank line) (hl : BeginsFeature k line) :
    s.read k line =
      ReaderState.read k { line := s.line, features := g.close :: s.features } line := by
  have hraw := hl.raw
  have hrow := hl.notRow
  have hmarker := hl.notMarker
  have hconjunction := hl.notConjunction
  cases h with
  | body =>
    simp [ReaderState.read, ReaderState.advance, ReaderState.readBody, ReaderState.complete, hc, hb,
      hraw]
  | examples =>
    simp [ReaderState.read, ReaderState.advance, ReaderState.readBody, ReaderState.complete, hc, hb,
      hraw, hrow]
  | @scenario b st hrole hkind hclosed =>
    have hpassed : st.offer line = .passed := by
      cases ha : st.attachment with
      | docString => simp [Attachment.Closed, ha] at hclosed
      | _ => simp [OpenStep.offer, OpenStep.offerMarker, ha, hb, hrow, hmarker]
    have hrole' : (b.addStep st.close).role = .scenario := hrole
    simp [ReaderState.read, ReaderState.advance, ReaderState.readAfterStep, ReaderState.readBody,
      ReaderState.complete, Role.next?, hc, hb, hraw, hconjunction, hpassed, hrole', hkind]

end ReaderState

end FeatureDocs
