import FeatureDocs.Document.Cursor
import FeatureDocs.Document.Outcome
import Mathlib.Data.Nat.Find
import Mathlib.Tactic.Lemma

/-!
# Descents and their loops

A part of a descent changes a state, may stop early, and may not end. What may not end is a loop. It
goes on as long as its rounds do, and gives nothing if no number of them is enough
(`loop_eq_some_iff`), so it is its first round and then the loop again (`loop_eq`).
-/

namespace FeatureDocs

/-- What ends a descent early: the rejection of the document, or a failure of the reader itself. -/
inductive Stop
  | rejected (r : Rejection)
  | exhausted (e : Cursor.Exhausted)
  | rowWidth (e : DataTable.WidthError)
  | noMarker

namespace Descent

/-- What a descent has done so far: where its cursor is, the positions it has been at, the last one
first, and what was collected, asked and said. -/
structure State where
  cursor : Cursor
  visited : List Nat := [cursor.position]
  features : List Feature := []
  asked : List Text := []
  log : Log := []

end Descent

/-- A part of a descent. It changes the state, may stop early, and may not end at all. -/
abbrev Descent := ExceptT Stop (StateT Descent.State Option)

namespace Descent

/-! ### One part after the other -/

section Bind

variable {α β : Type} {x : Descent α} {f : α → Descent β} {a : α} {s s' : State}

lemma bind_ok (h : x s = some (.ok a, s')) : (x >>= f) s = f a s' := by
  show (x s).bind (fun p => ExceptT.bindCont f p.1 p.2) = f a s'
  rw [h]
  rfl

/-- A command that is stopped stops all that would follow. -/
lemma bind_error {e : Stop} (h : x s = some (.error e, s')) :
    (x >>= f) s = some (.error e, s') := by
  show (x s).bind (fun p => ExceptT.bindCont f p.1 p.2) = _
  rw [h]
  rfl

lemma bind_none (h : x s = none) : (x >>= f) s = none := by
  show (x s).bind (fun p => ExceptT.bindCont f p.1 p.2) = none
  rw [h]
  rfl

/-- A sequence of two commands that ends: the first gives a value that the second goes on from, or
it is stopped. -/
lemma bind_eq_some_iff {out : Except Stop β × State} :
    (x >>= f) s = some out ↔
      (∃ a s', x s = some (.ok a, s') ∧ f a s' = some out) ∨
        ∃ e s', x s = some (.error e, s') ∧ out = (.error e, s') := by
  constructor
  · intro h
    obtain ⟨⟨r, s'⟩, hx, h⟩ := Option.bind_eq_some_iff.mp h
    cases r with
    | ok a => exact .inl ⟨a, s', hx, h⟩
    | error e => exact .inr ⟨e, s', hx, (Option.some.inj h).symm⟩
  · rintro (⟨a, s', hx, h⟩ | ⟨e, s', hx, rfl⟩)
    · rw [bind_ok hx, h]
    · exact bind_error hx

lemma ite_bind (c : Prop) [Decidable c] (x y : Descent α) :
    (if c then x else y) >>= f = if c then x >>= f else y >>= f := by
  split <;> rfl

end Bind

/-! ### Loops -/

/-- How a loop goes on behind a round: with another one, or not. -/
inductive Round (α β : Type)
  | again (a : α)
  | done (b : β)

section Loop

variable {α β : Type} (round : α → Descent (Round α β))

/-- At most so many rounds of a loop. They give nothing if the last of them goes on. -/
def rounds : Nat → α → Descent β
  | 0, _ => fun _ => none
  | n + 1, a => do
    match ← round a with
    | .again a => rounds n a
    | .done b => return b

open Classical in
/-- The rounds of a loop, as many as it needs. -/
noncomputable def loop (a : α) : Descent β := fun s =>
  if h : ∃ n, (rounds round n a s).isSome then rounds round (Nat.find h) a s else none

variable {round} {a : α} {s : State} {out : Except Stop β × State} {n m : Nat}

/-- What ends within some number of rounds ends within one more. -/
lemma rounds_succ (h : rounds round n a s = some out) : rounds round (n + 1) a s = some out := by
  induction n generalizing a s with
  | zero => cases h
  | succ n ih =>
    obtain ⟨r, s', hx, h⟩ | ⟨e, s', hx, rfl⟩ := bind_eq_some_iff.mp h
    · refine bind_eq_some_iff.mpr (.inl ⟨r, s', hx, ?_⟩)
      cases r with
      | again a' => exact ih h
      | done b => exact h
    · exact bind_error hx

lemma rounds_le (hle : n ≤ m) (h : rounds round n a s = some out) :
    rounds round m a s = some out := by
  induction hle with
  | refl => exact h
  | step _ ih => exact rounds_succ ih

/-- A loop ends as its rounds do, whatever number of them is enough. -/
lemma loop_eq_some_iff : loop round a s = some out ↔ ∃ n, rounds round n a s = some out := by
  classical
  constructor
  · intro h
    rw [loop] at h
    split at h
    · exact ⟨_, h⟩
    · cases h
  · rintro ⟨n, h⟩
    have hex : ∃ n, (rounds round n a s).isSome := ⟨n, by rw [h]; rfl⟩
    have hle : Nat.find hex ≤ n := Nat.find_min' hex (by rw [h]; rfl)
    obtain ⟨out', hfind⟩ := Option.isSome_iff_exists.mp (Nat.find_spec hex)
    have heq : some out' = some out := (rounds_le hle hfind).symm.trans h
    rw [loop, dif_pos hex, hfind, heq]

/-- A loop is its first round, and then the loop again if the round goes on. -/
lemma loop_eq :
    loop round a = do
      match ← round a with
      | .again a => loop round a
      | .done b => return b := by
  funext s
  apply Option.ext
  intro out
  -- a loop is defined by some number of rounds, and one more round is taken off or put on
  rw [loop_eq_some_iff, bind_eq_some_iff]
  constructor
  · rintro ⟨_ | n, h⟩
    · cases h
    · obtain ⟨r, s', hx, h⟩ | hstop := bind_eq_some_iff.mp h
      · refine .inl ⟨r, s', hx, ?_⟩
        cases r with
        | again a' => exact loop_eq_some_iff.mpr ⟨n, h⟩
        | done b => exact h
      · exact .inr hstop
  · rintro (⟨r, s', hx, h⟩ | ⟨e, s', hx, rfl⟩)
    · cases r with
      | again a' =>
        obtain ⟨n, h⟩ := loop_eq_some_iff.mp h
        exact ⟨n + 1, bind_eq_some_iff.mpr (.inl ⟨.again a', s', hx, h⟩)⟩
      | done b => exact ⟨1, bind_eq_some_iff.mpr (.inl ⟨.done b, s', hx, h⟩)⟩
    · exact ⟨1, bind_error hx⟩

end Loop

end Descent

end FeatureDocs
