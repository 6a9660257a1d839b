import FeatureDocs.Proofs.Productions
import FeatureDocs.Proofs.Runs

/-!
# Where a descent stops

A production records every position of its cursor, and it rejects a document for a fault only when
its cursor is behind the line of the fault (`Marks`). There is one rule for each way to put
productions together, so this holds of them all (`compositional_marks`).
-/

namespace FeatureDocs.Descent

variable {α β : Type}

/-- The last position that was recorded is that of the cursor. -/
def State.Marked (s : State) : Prop := s.visited.head? = some s.position

/-- A production leaves a marked state marked, and the line of a fault for which it rejects the
document is the last one that was read. -/
def Marks (x : Descent α) : Prop :=
  ∀ s out s', x s = some (out, s') → s.Marked →
    s'.Marked ∧ ∀ fault n, out = .error (.rejected (.fault fault n)) → n = s'.position

/-! ### Rules -/

namespace Marks

variable {x : Descent α} {f : α → Descent β}

lemma pure (a : α) : Marks (pure a : Descent α) := by
  intro s out s' h hs
  cases h
  exact ⟨hs, by simp⟩

/-- A stop that is for no line. -/
lemma throw {e : Stop} (h : ∀ fault n, e ≠ .rejected (.fault fault n)) :
    Marks (throw e : Descent α) := by
  intro s out s' hx hs
  cases hx
  refine ⟨hs, fun fault n he => ?_⟩
  cases he
  exact absurd rfl (h fault n)

/-- A sequence is stopped where one of its commands is. -/
lemma bind (hx : Marks x) (hf : ∀ a, Marks (f a)) : Marks (x >>= f) := by
  intro s out s' h hs
  obtain ⟨a, s₁, hx₁, hf₁⟩ | ⟨e, s₁, hx₁, heq⟩ := bind_eq_some_iff.mp h
  · exact hf a s₁ out s' hf₁ (hx s _ s₁ hx₁ hs).1
  · cases heq
    obtain ⟨hs', hline⟩ := hx s _ s' hx₁ hs
    refine ⟨hs', fun fault n he => hline fault n ?_⟩
    cases he
    rfl

/-- A look at the state. -/
lemma get : Marks (get : Descent State) := by
  intro s out s' h hs
  cases h
  exact ⟨hs, by simp⟩

/-- What a production collects or says is nothing to its cursor. -/
lemma modify {g : State → State} (h : ∀ s, (g s).cursor = s.cursor ∧ (g s).visited = s.visited) :
    Marks (modify g : Descent PUnit) := by
  intro s out s' hx hs
  cases hx
  obtain ⟨hcursor, hvisited⟩ := h s
  refine ⟨?_, by simp⟩
  rw [State.Marked, State.position, hcursor, hvisited]
  exact hs

/-- By induction on the number of rounds. -/
lemma rounds {round : α → Descent (Round α β)} (h : ∀ a, Marks (round a)) (n : Nat) (a : α) :
    Marks (rounds round n a) := by
  induction n generalizing a with
  | zero =>
    intro s out s' hx
    cases hx
  | succ n ih =>
    refine (h a).bind fun r => ?_
    cases r with
    | again a => exact ih a
    | done b => exact .pure b

/-- A loop whose rounds do. -/
lemma loop {round : α → Descent (Round α β)} (h : ∀ a, Marks (round a)) (a : α) :
    Marks (loop round a) := by
  intro s out s' hx hs
  obtain ⟨n, hn⟩ := loop_eq_some_iff.mp hx
  exact rounds h n a s out s' hn hs

end Marks

/-! ### Productions -/

/-- There is a next line, or the document has ended too early. -/
lemma next_marks : Marks next := by
  intro s out s' h hs
  obtain ⟨s₁, s₂, hget, h⟩ | ⟨e, s₁, hget, heq⟩ := bind_eq_some_iff.mp h
  · cases hget
    revert h
    cases s.cursor.next with
    | ok r =>
      intro h
      cases h
      exact ⟨rfl, by simp⟩
    | error e =>
      intro h
      cases h
      exact ⟨hs, by simp⟩
  · cases hget

lemma peek_marks : Marks peek := by
  refine .bind .get fun s => ?_
  cases s.cursor.peek with
  | ok line => exact .pure line
  | error e => exact .throw (by simp)

lemma reject_marks (fault : Fault) : Marks (reject fault : Descent α) := by
  intro s out s' h hs
  rw [reject_apply] at h
  cases h
  refine ⟨hs, fun fault' n he => ?_⟩
  cases he
  rfl

/-- All productions are stopped at the line that was read last. -/
lemma compositional_marks : Compositional Marks where
  pure := .pure
  bind := .bind
  loop := .loop
  atEnd := .bind .get fun _ => .pure _
  peek := peek_marks
  next := next_marks
  line := .bind .get fun _ => .pure _
  stop := .throw
  reject := reject_marks

lemma resolve_marks (resolver : Option Resolver) (name : Text) : Marks (resolve resolver name) := by
  cases resolver with
  | none => exact .pure _
  | some find =>
    intro s out s' h hs
    cases h
    exact ⟨hs, by simp⟩

/-- The whole descent is stopped at the line that was read last. -/
lemma document_marks (k : KeywordTable) (resolver : Option Resolver) (source : Text) :
    Marks (document k resolver source) :=
  compositional_marks.document k (resolve_marks resolver) fun _ _ => .modify fun _ => ⟨rfl, rfl⟩

end FeatureDocs.Descent
