import FeatureDocs.Proofs.Descent

/-!
# Productions of a descent

A property of parts of a descent may go over to all that is put together of them. If looking ahead,
reading a line and stopping have such a property, then all productions of a feature have it, and
they follow one after the other (`Compositional.feature`). A production of documents collects and
asks besides (`Compositional.document`).
-/

namespace FeatureDocs.Descent

/-- A property that goes over from the parts of a descent to the whole, and that its smallest parts
have. -/
structure Compositional (P : ∀ {α : Type}, Descent α → Prop) : Prop where
  pure {α : Type} (a : α) : P (pure a : Descent α)
  bind {α β : Type} {x : Descent α} {f : α → Descent β} (hx : P x) (hf : ∀ a, P (f a)) : P (x >>= f)
  loop {α β : Type} {round : α → Descent (Round α β)} (hround : ∀ a, P (round a)) (a : α) :
    P (loop round a)
  atEnd : P atEnd
  peek : P peek
  next : P next
  line : P line
  /-- Only `reject` may reject a document for a fault. -/
  stop {α : Type} {e : Stop} (he : ∀ fault n, e ≠ .rejected (.fault fault n)) :
    P (throw e : Descent α)
  reject {α : Type} (fault : Fault) : P (reject fault : Descent α)

namespace Compositional

variable {P : ∀ {α : Type}, Descent α → Prop}

lemma ite {α : Type} {c : Prop} [Decidable c] {x y : Descent α} (hx : P x) (hy : P y) :
    P (if c then x else y) := by
  split
  · exact hx
  · exact hy

variable (h : Compositional P)
include h

/-! ### Lines -/

lemma command : P command := h.bind h.next fun _ => h.pure _

lemma needLine : P needLine := h.bind h.atEnd fun _ => ite (h.stop (by simp)) (h.pure _)

/-- Loops keep a property since their rounds do (`loop`). -/
lemma skipBlanks : P skipBlanks :=
  h.loop (fun _ => h.bind h.atEnd fun _ =>
    ite (h.pure _) (h.bind h.peek fun _ =>
      ite (h.bind h.next fun _ => h.pure _) (h.pure _))) ()

/-! ### Tables and doc strings -/

lemma atRow : P atRow :=
  h.bind h.atEnd fun _ => ite (h.pure _) (h.bind h.peek fun _ => h.pure _)

lemma row : P row := h.bind h.next fun _ => h.pure _

lemma addRow (t : DataTable) (cells : List Text) : P (addRow t cells) := by
  unfold Descent.addRow
  cases t.addRow cells with
  | ok t => exact h.pure t
  | error e => exact h.stop (by simp)

/-- All the rows of a table, each followed by a look at the next line. -/
lemma rows (t : DataTable) : P (rows t) :=
  h.loop (fun t => h.bind h.atRow fun _ =>
    ite
      (h.bind h.row fun _ =>
        ite (h.reject _) (h.bind (h.addRow t _) fun _ => h.pure _))
      (h.pure _)) t

lemma table? : P table? :=
  h.bind h.skipBlanks fun _ => h.bind h.atRow fun _ =>
    ite (h.bind h.row fun _ => h.bind (h.rows _) fun _ => h.pure _) (h.pure _)

lemma body (indentation : Text) (ls : List Text) : P (body indentation ls) :=
  h.loop (fun _ => h.bind h.needLine fun _ => h.bind h.peek fun _ =>
    ite (h.pure _) (h.bind h.next fun _ => ite (h.pure _) (h.reject _))) ls

lemma atMarker : P atMarker :=
  h.bind h.atEnd fun _ => ite (h.pure _) (h.bind h.peek fun _ => h.pure _)

/-- A doc string: the marker, the lines up to the next marker, and that one. -/
lemma docString? : P docString? := by
  refine h.bind h.skipBlanks fun _ => h.bind h.atMarker fun _ => ite ?_ (h.pure _)
  refine h.bind h.next fun text => ?_
  cases Text.cut? docStringMarker text with
  | none => exact h.stop (by simp)
  | some parts =>
    exact h.bind (h.body parts.1 []) fun _ => h.bind h.next fun _ =>
      ite (h.pure _) (h.reject _)

/-! ### Steps, blocks and features -/

variable (k : KeywordTable)

/-- A step with its table and its doc string. -/
lemma step (kind : StepKind) : P (step k kind) := by
  refine h.bind h.command fun text => ?_
  cases stepText? k kind text with
  | none => exact h.reject _
  | some text =>
    exact h.bind h.line fun _ => h.bind h.table? fun _ => h.bind h.docString? fun _ =>
      h.bind h.skipBlanks fun _ => h.pure _

lemma steps (kind : StepKind) (done : List Step) : P (steps k kind done) :=
  h.loop (fun _ => h.bind (h.step k kind) fun _ => h.bind h.atEnd fun _ =>
    ite (ite (h.pure _) (h.stop (by simp)))
      (h.bind h.peek fun _ => ite (h.pure _) (h.pure _))) done

lemma background : P (background k) :=
  h.bind h.skipBlanks fun _ => h.bind h.needLine fun _ => h.steps k .context []

/-- The three sections of a scenario. -/
lemma sections : P (sections k) :=
  h.bind h.skipBlanks fun _ => h.bind h.needLine fun _ =>
    h.bind (h.steps k .context []) fun _ => h.bind (h.steps k .action _) fun _ =>
      h.steps k .outcome _

lemma examples : P (examples k) := by
  refine h.bind h.skipBlanks fun _ => h.bind h.needLine fun _ => h.bind h.command fun _ =>
    ite (h.bind h.table? fun t => ?_) (h.reject _)
  cases t with
  | none => exact h.reject _
  | some t => exact h.pure t

/-- A feature behind its head, with whatever blocks and lines of description it has. -/
lemma feature (f : Feature) (describing : Bool) : P (feature k f describing) := by
  refine h.loop (fun (f, describing) => ?_) (f, describing)
  refine h.bind h.skipBlanks fun _ => h.bind h.atEnd fun _ => ite (h.pure _) ?_
  refine h.bind h.peek fun _ => ite (h.pure _) ?_
  refine h.bind h.command fun text => h.bind h.line fun n => ?_
  refine ite ?background (ite ?outline (ite ?scenario (ite (h.pure _) (h.reject _))))
  case background => exact ite (h.reject _) (h.bind (h.background k) fun _ => h.pure _)
  case outline =>
    exact h.bind (h.sections k) fun _ => h.bind (h.examples k) fun _ => h.pure _
  case scenario => exact h.bind (h.sections k) fun _ => h.pure _

/-- A whole document, if asking for an implementation and collecting a feature have the property
too. -/
lemma document {resolver : Option Resolver} {source : Text}
    (hresolve : ∀ name, P (resolve resolver name))
    (hcollect : ∀ (f : Feature) (found : Lookup), P (modify fun s =>
      { s with features := s.features ++ [f.bind source found], log := s.log ++ f.log } :
        Descent PUnit)) :
    P (document k resolver source) := by
  refine h.loop (fun _ => ?_) ()
  refine h.bind h.skipBlanks fun _ => h.bind h.atEnd fun _ => ite (h.pure _) ?_
  refine h.bind h.command fun text => ite ?_ (h.reject _)
  refine h.bind h.line fun n => h.bind (hresolve _) fun found => ?_
  refine h.bind (h.feature k _ true) fun f => ?_
  exact h.bind (hcollect f found) fun _ => h.pure _

end Compositional

end FeatureDocs.Descent
