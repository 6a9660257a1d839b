import FeatureDocs.Proofs.Features

/-!
# The features of any document

The features that a document has are derived one after the other from its first lines, also if what
follows them is rejected. A document that is accepted has nothing but blank lines behind them.
-/

namespace FeatureDocs

open Grammar

/-- Features one after the other, whatever follows the last of them. -/
inductive Grammar.Passage (k : KeywordTable) : List Line → List Feature → List Line → Prop
  | stop {rest : List Line} : Passage k rest [] rest
  | feature {l : Line} {input next mid rest : List Line} {f : Feature} {features : List Feature}
      (hgap : Gap input (l :: next)) (hf : FeatureLines k (l :: next) f mid)
      (h : Passage k mid features rest) : Passage k input (f :: features) rest

variable {k : KeywordTable}

/-- A passage that leaves only blank lines is a document. -/
lemma Grammar.Passage.document {input rest : List Line} {features : List Feature}
    (h : Passage k input features rest) (hgap : Gap rest []) : Document k input features := by
  induction h with
  | stop => exact .stop hgap
  | feature hstart hf _ ih => exact .feature hstart hf (ih hgap)

namespace Descent

variable {s s' : State} {fs : List Feature} {g : Feature}

/-- A feature whose rest was read is one feature of the grammar. -/
lemma ReadFeature.featureLines {l : Line} {f : OpenFeature}
    (hl : k.Matches (Text.trim l.text) .feature)
    (hf : f = { name := k.strip (Text.trim l.text) .feature, line := s.position })
    (hnumber : l.number = s.position) (h : ReadFeature k fs f s g s') :
    FeatureLines k (l :: s.lines) g s'.lines := by
  obtain ⟨texts, parts, -, ⟨hd, hp, hgap, hrest⟩, hone, rfl⟩ := h.derived
  subst hf
  rw [OpenFeature.allBackgrounds_begun] at hone
  rw [OpenFeature.extend_begun, ← hnumber]
  exact .feature hl hd hp hone hgap hrest

/-- Reading gets behind the last of the new features. Either the rest is blank, or the document is
rejected for it. -/
lemma passage_reads (fs : List Feature) (s : State) :
    ∃ new rest, Passage k s.lines new rest ∧
      (Gap rest [] ∧ s.reading k fs none = { features := fs.reverse ++ new } ∨
        ∃ abandoned r, s.reading k fs none =
          { features := fs.reverse ++ new, abandoned, rejection := some r }) := by
  induction hn : s.texts.length using Nat.strong_induction_on generalizing s fs with
  | _ n ih =>
    subst hn
    -- the induction is on the number of lines left, and a header takes at least one
    obtain ⟨s₁, hs₁, ⟨_, -, hgap, hr₁⟩ | ⟨_, _, hfalse⟩⟩ :=
      skipBlanks_reads (skipsBlanks_none k) fs s
    case inr => exact hfalse.elim
    rw [hr₁]
    have hlen := hs₁.length_le
    cases ht : s₁.texts with
    | nil =>
      rw [State.lines_nil ht] at hgap
      refine ⟨[], s.lines, .stop, .inl ⟨hgap, ?_⟩⟩
      rw [State.reading_nil ht, List.append_nil]
      rfl
    | cons text rest =>
      have hb : ∀ l ∈ s₁.texts.head?, ¬ Text.isBlank l := State.forall_head_iff.mp hgap.head
      have hb : ¬ Text.isBlank text := hb text (by simp [ht])
      by_cases hf : k.Matches (Text.trim text) .feature
      · rw [reading_begin ht hb hf]
        obtain ⟨s₂, hs₂, ⟨g, -, hg⟩ | ⟨r, -, hr⟩⟩ := feature_reads (k := k) fs
          { name := k.strip (Text.trim text) .feature, line := s₁.step.position } s₁.step
        · have hlt : s₂.texts.length < s.texts.length := by
            have h₂ := hs₂.length_le
            rw [State.texts_step ht] at h₂
            rw [ht, List.length_cons] at hlen
            omega
          obtain ⟨new, left, hnew, heq⟩ := ih _ hlt (g :: fs) s₂ rfl
          rw [List.reverse_cons, List.append_assoc] at heq
          rw [State.lines_step ht, ← State.position_step ht] at hgap
          rw [hg.same]
          exact ⟨g :: new, left, .feature hgap (hg.featureLines hf rfl rfl) hnew, heq⟩
        · refine ⟨[], s.lines, .stop, .inr ⟨some (k.strip (Text.trim text) .feature), r, ?_⟩⟩
          rw [hr, rejectedIn, List.append_nil]
      · rw [reading_expected ht hb hf]
        refine ⟨[], s.lines, .stop, .inr ⟨none, .fault .expectedFeature s₁.step.position, ?_⟩⟩
        rw [List.append_nil]

end Descent

/-- The features of a document are derived from its first lines. -/
lemma KeywordTable.read_passage (k : KeywordTable) (ls : List Text) :
    ∃ rest, Passage k (numberFrom 0 ls) (k.read ls).features rest := by
  obtain ⟨new, rest, hnew, h⟩ :=
    Descent.passage_reads (k := k) [] { cursor := { lines := ls } }
  have hfeatures : (k.read ls).features = new := by
    rcases h with ⟨-, hread⟩ | ⟨abandoned, r, hread⟩
    · exact congrArg Reading.features hread
    · exact congrArg Reading.features hread
  rw [hfeatures]
  exact ⟨rest, hnew⟩

end FeatureDocs
