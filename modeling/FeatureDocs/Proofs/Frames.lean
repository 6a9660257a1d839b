import FeatureDocs.Proofs.Productions
import FeatureDocs.Proofs.Totality

/-!
# What a descent leaves alone

A descent adds to what has been collected, asked and said, and never looks at it: with something of
it there from before, it does the same behind that (`Frames`). Only a resolver is told how often it
was asked, so with a resolver a descent does what it does alone with what is left of that
(`document_framesTo`). So it does not matter where a parser was stopped before it is given a
document (`call_apply`).
-/

namespace FeatureDocs.Descent

variable {α β : Type}

/-- A state with what there was in another one before. The cursor is that of the state. -/
def State.behind (s prior : State) : State where
  cursor := s.cursor
  visited := s.visited ++ prior.visited
  features := prior.features ++ s.features
  asked := prior.asked ++ s.asked
  log := prior.log ++ s.log

@[simp] lemma State.cursor_behind (s prior : State) : (s.behind prior).cursor = s.cursor := rfl

/-- A part of a descent does what another one does alone, if there is something from before. -/
def FramesTo (prior : State) (x y : Descent α) : Prop :=
  ∀ s, x (s.behind prior) = (y s).map (Prod.map id (State.behind · prior))

/-- A part of a descent does the same if there is something from before. -/
def Frames (x : Descent α) : Prop := ∀ prior, FramesTo prior x x

/-! ### Rules -/

namespace FramesTo

variable {prior : State} {x y : Descent α} {f g : α → Descent β}
  {round other : α → Descent (Round α β)}

/-- Commands that do not look at what was there before keep to that in a sequence. -/
lemma bind (hx : FramesTo prior x y) (hf : ∀ a, FramesTo prior (f a) (g a)) :
    FramesTo prior (x >>= f) (y >>= g) := by
  intro s
  have hbehind := hx s
  cases h : y s with
  | none =>
    rw [h] at hbehind
    rw [bind_none hbehind, bind_none h]
    rfl
  | some r =>
    rw [h] at hbehind
    obtain ⟨e | a, s'⟩ := r
    · rw [bind_error hbehind, bind_error h]
      rfl
    · rw [bind_ok hbehind, bind_ok h]
      exact hf a s'

lemma ite {c : Prop} [Decidable c] {x' y' : Descent α} (hx : FramesTo prior x y)
    (hx' : FramesTo prior x' y') :
    FramesTo prior (if c then x else x') (if c then y else y') := by
  split
  · exact hx
  · exact hx'

/-- By induction on the number of rounds. -/
lemma rounds (hround : ∀ a, FramesTo prior (round a) (other a)) (n : Nat) (a : α) :
    FramesTo prior (rounds round n a) (rounds other n a) := by
  induction n generalizing a with
  | zero => exact fun _ => rfl
  | succ n ih =>
    refine (hround a).bind fun r => ?_
    cases r with
    | again a => exact ih a
    | done b => exact fun _ => rfl

/-- A loop needs as many rounds as it does without what there was before. -/
lemma loop (hround : ∀ a, FramesTo prior (round a) (other a)) (a : α) :
    FramesTo prior (loop round a) (loop other a) := by
  intro s
  apply Option.ext
  intro out
  simp only [loop_eq_some_iff, rounds hround _ a s, Option.map_eq_some_iff]
  constructor
  · rintro ⟨n, r, hr, hout⟩
    exact ⟨r, ⟨n, hr⟩, hout⟩
  · rintro ⟨r, ⟨n, hr⟩, hout⟩
    exact ⟨n, r, hr, hout⟩

end FramesTo

namespace Frames

variable {x : Descent α} {f : α → Descent β} {round : α → Descent (Round α β)}

lemma bind (hx : Frames x) (hf : ∀ a, Frames (f a)) : Frames (x >>= f) := fun prior =>
  (hx prior).bind fun a => hf a prior

lemma loop (hround : ∀ a, Frames (round a)) (a : α) : Frames (loop round a) := fun prior =>
  .loop (fun a => hround a prior) a

/-- What is added to a state is added behind what there was before. -/
lemma modify {g : State → State} (h : ∀ prior s, g (s.behind prior) = (g s).behind prior) :
    Frames (modify g : Descent PUnit) := by
  intro prior s
  rw [modify_apply, modify_apply, h]
  rfl

end Frames

/-! ### Productions -/

lemma peek_frames : Frames peek := by
  intro prior s
  rw [peek, bind_ok get_apply, bind_ok get_apply, State.cursor_behind]
  cases s.cursor.peek <;> rfl

/-- A line is read whatever was collected, asked and said before. -/
lemma next_frames : Frames next := by
  intro prior s
  rw [next, bind_ok get_apply, bind_ok get_apply, State.cursor_behind]
  cases s.cursor.next <;> rfl

/-- No production looks at what was there before. -/
lemma compositional_frames : Compositional Frames where
  pure _ _ _ := rfl
  bind := .bind
  loop := .loop
  atEnd _ _ := rfl
  peek := peek_frames
  next := next_frames
  line _ _ := rfl
  stop _ _ _ := rfl
  reject _ _ _ := rfl

/-- A resolver that has been asked before is asked what is left of it. -/
lemma resolve_framesTo (prior : State) (resolver : Option Resolver) (name : Text) :
    FramesTo prior (resolve resolver name)
      (resolve (resolver.map (·.skip prior.asked.length)) name) := by
  intro s
  cases resolver with
  | none => rfl
  | some find =>
    have hlength : (s.behind prior).asked.length = s.asked.length + prior.asked.length := by
      rw [State.behind, List.length_append, Nat.add_comm]
    show some (Except.ok (find (s.behind prior).asked.length name),
        ({ s.behind prior with
          asked := prior.asked ++ s.asked ++ [name]
          log := prior.log ++ s.log ++ (find (s.behind prior).asked.length name).log name } :
          State)) = _
    rw [hlength, List.append_assoc, List.append_assoc]
    rfl

/-- A document is read as by a new parser, with what is left of the resolver. -/
lemma document_framesTo (k : KeywordTable) (prior : State) (resolver : Option Resolver)
    (source : Text) :
    FramesTo prior (document k resolver source)
      (document k (resolver.map (·.skip prior.asked.length)) source) := by
  refine .loop (fun _ => ?_) ()
  refine .bind (compositional_frames.skipBlanks prior) fun _ => ?_
  refine .bind (compositional_frames.atEnd prior) fun _ =>
    .ite (compositional_frames.pure _ prior) ?_
  refine .bind (compositional_frames.command prior) fun _ =>
    .ite ?_ (compositional_frames.reject _ prior)
  refine .bind (compositional_frames.line prior) fun _ =>
    .bind (resolve_framesTo prior resolver _) fun found => ?_
  refine .bind (compositional_frames.feature k _ true prior) fun f => ?_
  refine .bind ?_ fun _ => compositional_frames.pure _ prior
  exact Frames.modify (fun prior s => by simp [State.behind]) prior

end FeatureDocs.Descent
