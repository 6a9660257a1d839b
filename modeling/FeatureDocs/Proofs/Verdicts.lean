import FeatureDocs.Proofs.Moves

/-!
# Verdicts of the reader

A line is rejected for a fault of its own, and then it has been read; only a line that stands where
the table of some examples has to begin is rejected unread. A line that is not rejected leaves the
reader where it was, at a step that took it, at a new step, or at no step (`ReaderState.leaves`).
A document is read to its end, or up to the line that it is rejected for
(`ReaderState.readAll_cases`).
-/

namespace FeatureDocs.ReaderState

/-! ### Verdicts on one line -/

/-- What a line leaves behind. -/
inductive Leaves (s : ReaderState) (line : Text) : Except Reading ReaderState → Prop
  /-- The line is rejected, and has been read. -/
  | fault {r : Reading} {fault : Fault} (hr : r.rejection = some (.fault fault (s.line + 1)))
      (hne : fault ≠ .examplesWithoutTable) : Leaves s line (.error r)
  /-- The line stands where a table has to begin, and has not been read. -/
  | noTable (hc : s.current.isSome) : Leaves s line (.error (s.reject .examplesWithoutTable))
  /-- The place is the same, and not a step. -/
  | same {s' : ReaderState} (hc : s'.current = s.current)
      (hp : ∀ f b step, s.current ≠ some (f, .step b step)) : Leaves s line (.ok s')
  /-- The line belongs to an open step. -/
  | taken {s' : ReaderState} {f : OpenFeature} {b : Block} {step step' : OpenStep}
      (hc : s.current = some (f, .step b step)) (hoffer : step.offer line = .taken step')
      (hc' : s'.current = some (f, .step b step')) : Leaves s line (.ok s')
  /-- The line is a step. -/
  | step {s' : ReaderState} {f : OpenFeature} {b : Block} {kind : StepKind} {text : Text}
      (hc' : s'.current = some (f, .step b { kind, text, line := s.line + 1 })) :
      Leaves s line (.ok s')
  /-- The place is not a step. -/
  | aside {s' : ReaderState} {f : OpenFeature} {p : Place} (hc' : s'.current = some (f, p))
      (hp : ∀ b step, p ≠ .step b step) : Leaves s line (.ok s')

variable {k : KeywordTable} {s t : ReaderState} {line : Text} {fault : Fault}

section Leaves

variable (ht : t.line = s.line + 1)
include ht

lemma leaves_reject (h : fault ≠ .examplesWithoutTable) :
    Leaves s line (.error (t.reject fault)) := by
  have hr : (t.reject fault).rejection = some (.fault fault (s.line + 1)) := by
    rw [← ht]
    rfl
  exact .fault hr h

lemma leaves_readFeature : Leaves s line (t.readFeature k line) := by
  rcases readFeature_cases (k := k) t line with ⟨-, h⟩ | h
  · rw [h]
    exact .aside rfl (by simp)
  · rw [h]
    exact leaves_reject ht (by simp)

/-- What is left of an open step by a line in the body of a feature. -/
lemma leaves_readBody (f : OpenFeature) : Leaves s line (t.readBody k f line) := by
  simp only [ReaderState.readBody]
  split_ifs
  · exact leaves_readFeature (t := t.complete f) ht
  · exact leaves_reject ht (by simp)
  · exact .aside rfl (by simp)
  · exact .aside rfl (by simp)
  · exact .aside rfl (by simp)
  · exact leaves_reject ht (by simp)
  · exact .aside rfl (by simp)

lemma leaves_readStep (f : OpenFeature) (b : Block) (kind : StepKind) :
    Leaves s line (t.readStep k f b kind line) := by
  simp only [ReaderState.readStep, ht]
  split_ifs
  · exact .step rfl
  · exact .step rfl
  · exact leaves_reject ht (by simp)

/-- What is left of an open step by a line behind it. -/
lemma leaves_readAfterStep (f : OpenFeature) (b : Block) (kind : StepKind) :
    Leaves s line (t.readAfterStep k f b kind line) := by
  simp only [ReaderState.readAfterStep]
  split_ifs
  · exact leaves_readStep ht f b kind
  · cases b.role.next? kind with
    | some kind' => exact leaves_readStep ht f b kind'
    | none =>
      cases b.role with
      | background => exact leaves_readBody ht (f.addBlock b)
      | scenario => exact leaves_readBody ht (f.addBlock b)
      | outline =>
        simp only [ReaderState.readExamples]
        split_ifs
        · exact .aside rfl (by simp)
        · exact leaves_reject ht (by simp)

end Leaves

/-- A line that an open step refuses does not stand where a table has to begin. -/
lemma ne_of_refused {step : OpenStep} (h : step.offer line = .refused fault) :
    fault ≠ .examplesWithoutTable := by
  rintro rfl
  cases ha : step.attachment with
  | table t =>
    cases hrow : t.addRow (DataTable.cells line) with
    | ok t' =>
      simp only [OpenStep.offer, OpenStep.offerMarker, ha, hrow] at h
      split_ifs at h
    | error e =>
      simp only [OpenStep.offer, OpenStep.offerMarker, ha, hrow] at h
      split_ifs at h
      cases h
  | _ =>
    simp only [OpenStep.offer, OpenStep.offerMarker, ha] at h
    split_ifs at h <;> cases h

/-- What every line leaves of an open step. -/
lemma leaves (k : KeywordTable) (s : ReaderState) (line : Text) :
    Leaves s line (s.read k line) := by
  have ht : s.advance.line = s.line + 1 := rfl
  rcases hc : s.current with _ | ⟨f, p⟩
  · -- a blank line leaves the machine where it was, except in a step or a table of examples
    simp only [ReaderState.read, hc]
    split_ifs
    · exact .same rfl (by simp [hc])
    · exact leaves_readFeature ht
  · cases p with
    | body =>
      simp only [ReaderState.read, hc]
      split_ifs
      · exact .same rfl (by simp [hc])
      · exact leaves_readBody ht f
    | head b =>
      simp only [ReaderState.read, hc]
      split_ifs
      · exact .same rfl (by simp [hc])
      · exact leaves_readStep ht f b .context
    | step b step =>
      simp only [ReaderState.read, hc]
      cases hoffer : step.offer line with
      | taken step' => exact .taken hc hoffer rfl
      | refused fault => exact leaves_reject ht (ne_of_refused hoffer)
      | passed => exact leaves_readAfterStep ht f (b.addStep step.close) step.kind
    | examples b =>
      simp only [ReaderState.read, hc]
      split_ifs
      · exact .same rfl (by simp [hc])
      · exact .aside rfl (by simp)
      · exact .noTable (by rw [hc]; rfl)
    | examplesTable b t =>
      simp only [ReaderState.read, hc]
      split_ifs
      · exact .aside rfl (by simp)
      · cases t.addRow (DataTable.cells line) with
        | ok t' => exact .aside rfl (by simp)
        | error e => exact leaves_reject ht (by simp)
      · exact leaves_readBody ht (f.addOutline b t.close)

/-- The verdict on a line that is rejected. -/
lemma verdict_cases {r : Reading} (h : s.read k line = .error r) :
    (∃ fault, r.rejection = some (.fault fault (s.line + 1)) ∧ fault ≠ .examplesWithoutTable) ∨
      s.current.isSome ∧ r = s.reject .examplesWithoutTable := by
  have hleaves := leaves k s line
  rw [h] at hleaves
  cases hleaves with
  | fault hr hne => exact .inl ⟨_, hr, hne⟩
  | noTable hc => exact .inr ⟨hc, rfl⟩

/-! ### The step that is open -/

/-- Where the reader is at a step, the step has a property. -/
def AtStep (P : OpenStep → Prop) (s : ReaderState) : Prop :=
  ∀ f b step, s.current = some (f, .step b step) → P step

section AtStep

variable {s' : ReaderState} {P : OpenStep → Prop}

lemma atStep_of_current {f : OpenFeature} {b : Block} {step : OpenStep}
    (hc : s.current = some (f, .step b step)) (h : P step) : s.AtStep P := by
  intro f' b' step' hc'
  cases hc.symm.trans hc'
  exact h

/-- A property that a new step has is one of the open step, if the line does not belong to the step
before or leaves it the property. -/
lemma atStep_read (hread : s.read k line = .ok s')
    (hnew : ∀ kind text, P { kind, text, line := s.line + 1 })
    (htaken : s.AtStep fun step => ∀ step', step.offer line = .taken step' → P step') :
    s'.AtStep P := by
  have hleaves := leaves k s line
  rw [hread] at hleaves
  cases hleaves with
  | same hc hp =>
    intro f b step hc'
    exact absurd (hc.symm.trans hc') (hp f b step)
  | taken hc hoffer hc' => exact atStep_of_current hc' (htaken _ _ _ hc _ hoffer)
  | step hc' => exact atStep_of_current hc' (hnew _ _)
  | aside hc' hp =>
    intro f b step hc''
    cases hc'.symm.trans hc''
    exact absurd rfl (hp b step)

/-- A property that all new steps have, and no line that belongs to them takes from them. -/
lemma atStep_readSome {ls : List Text} (hs : s.AtStep P) (hread : s.readSome k ls = .ok s')
    (hnew : ∀ kind text m, s.line < m → m ≤ s.line + ls.length → P { kind, text, line := m })
    (htaken : ∀ step line step', P step → OpenStep.offer step line = .taken step' → P step') :
    s'.AtStep P := by
  induction ls generalizing s with
  | nil =>
    cases hread
    exact hs
  | cons line rest ih =>
    rw [ReaderState.readSome] at hread
    cases hline : s.read k line with
    | error x =>
      rw [hline] at hread
      cases hread
    | ok s₁ =>
      rw [hline] at hread
      have hs₁ : s₁.AtStep P := by
        refine atStep_read hline (fun kind text => ?_) fun f b step hc step' hoffer => ?_
        · exact hnew kind text _ (Nat.lt_succ_self _) (by simp)
        · exact htaken step line step' (hs f b step hc) hoffer
      have hline₁ : s₁.line = s.line + 1 := line_of_ok hline
      refine ih hs₁ hread fun kind text m hm hle => hnew kind text m (by omega) ?_
      rw [List.length_cons]
      omega

end AtStep

/-! ### The end -/

/-- The only fault of a document at its end is that its last examples have no table. -/
lemma fault_of_finish {n : Nat} (h : s.finish.rejection = some (.fault fault n)) :
    s.current.isSome ∧ fault = .examplesWithoutTable ∧ n = s.line := by
  rcases hc : s.current with _ | ⟨f, p⟩
  · simp [ReaderState.finish, hc] at h
  · cases p with
    | body => simp [ReaderState.finish, hc, ReaderState.endBehind] at h
    | head b => simp [ReaderState.finish, hc, ReaderState.endTooEarly] at h
    | examples b =>
      simp only [ReaderState.finish, hc, ReaderState.reject, Option.some.injEq,
        Rejection.fault.injEq] at h
      exact ⟨rfl, h.1.symm, h.2.symm⟩
    | examplesTable b t => simp [ReaderState.finish, hc, ReaderState.endBehind] at h
    | step b step =>
      simp only [ReaderState.finish, hc] at h
      split at h <;> simp [ReaderState.endBehind, ReaderState.endTooEarly] at h

/-! ### The line that decides -/

/-- A document is read to its end, or up to a line that is rejected. -/
lemma readAll_cases (k : KeywordTable) (s : ReaderState) (ls : List Text) :
    (∃ s', s.readSome k ls = .ok s' ∧ s.readAll k ls = s'.finish) ∨
      ∃ before line rest s', ls = before ++ line :: rest ∧ s.readSome k before = .ok s' ∧
        s'.read k line = .error (s.readAll k ls) := by
  induction ls generalizing s with
  | nil => exact .inl ⟨s, rfl, rfl⟩
  | cons line rest ih =>
    simp only [ReaderState.readAll, ReaderState.readSome]
    cases hread : s.read k line with
    | error r => exact .inr ⟨[], line, rest, s, rfl, rfl, hread⟩
    | ok s₁ =>
      rcases ih s₁ with ⟨s', hs', hfinish⟩ | ⟨before, line', rest', s', rfl, hs', hread'⟩
      · exact .inl ⟨s', hs', hfinish⟩
      · refine .inr ⟨line :: before, line', rest', s', rfl, ?_, hread'⟩
        rw [ReaderState.readSome, hread]
        exact hs'

end FeatureDocs.ReaderState
