import FeatureDocs.Proofs.Passages

/-!
# The documents that are accepted

A document is accepted exactly if the grammar derives it, with the features of the derivation, and
there is only one derivation to have them from (`KeywordTable.parse_ok_iff`). Both directions follow
the descent: what it reads is derived, and what is derived is read.
-/

namespace FeatureDocs

open Grammar

/-- The feature as its document has it, wherever it was read from and whatever was found for it. -/
def Feature.unbound (f : Feature) : Feature := { f with file := [], implementation := none }

lemma Feature.unbound_bind (f : Feature) (source : Text) (found : Lookup) :
    (f.bind source found).unbound = f.unbound := rfl

/-- What does not depend on an implementation is not changed by finding some. -/
lemma Reading.map_parsing {α : Type} {g h : Feature → α} (r : Reading)
    (resolver : Option Resolver) (source : Text) (hg : ∀ f found, g (f.bind source found) = h f) :
    (r.parsing resolver source).outcome.features.map g = r.features.map h := by
  apply List.ext_getElem?
  intro i
  simp [Reading.parsing, Function.comp_def, hg]

/-- Finding implementations leaves what was read as it is. -/
lemma Reading.unbound_parsing (r : Reading) (resolver : Option Resolver) (source : Text) :
    (r.parsing resolver source).outcome.features.map Feature.unbound =
      r.features.map Feature.unbound :=
  r.map_parsing resolver source (fun f found => f.unbound_bind source found)

variable {k : KeywordTable}

lemma Grammar.FeatureLines.unbound {input rest : List Line} {f : Feature}
    (h : FeatureLines k input f rest) : f.unbound = f := by
  cases h
  rfl

lemma Grammar.Document.unbound {input : List Line} {features : List Feature}
    (h : Document k input features) : features.map Feature.unbound = features := by
  induction h with
  | stop => rfl
  | feature _ hf _ ih => rw [List.map_cons, hf.unbound, ih]

lemma Grammar.Passage.unbound {input rest : List Line} {features : List Feature}
    (h : Passage k input features rest) : features.map Feature.unbound = features := by
  induction h with
  | stop => rfl
  | feature _ hf _ ih => rw [List.map_cons, hf.unbound, ih]

/-- The features of an outcome are those that were read, in order. -/
lemma KeywordTable.parse_unbound (k : KeywordTable) (resolver : Option Resolver)
    (document : Source) (source : Text) :
    (k.parse resolver document source).outcome.features.map Feature.unbound =
      (k.read document.toLines).features := by
  obtain ⟨rest, hpassage⟩ := k.read_passage document.toLines
  rw [parse, Reading.unbound_parsing, hpassage.unbound]

namespace Descent

variable {s : State} {g : Feature}

/-- A feature of the grammar is read up to its end. -/
lemma reading_feature (fs : List Feature) {l : Line} {next rest : List Line} (hs : s.lines = l :: next)
    (hb : ¬ Text.isBlank l.text) (h : FeatureLines k (l :: next) g rest) :
    ∃ s' : State, s'.lines = rest ∧ s.reading k fs none = s'.reading k (g :: fs) none := by
  obtain ⟨more, ht, hnumber, rfl⟩ := State.of_lines_eq_cons hs
  cases h with
  | @feature _ _ a b _ description parts hl hd hp hone hgap hrest =>
    have hread := feature_reads (k := k) fs
      { name := k.strip (Text.trim l.text) .feature, line := s.step.position } s.step
    rw [← OpenFeature.allBackgrounds_begun (k.strip (Text.trim l.text) .feature) s.step.position]
      at hone
    obtain ⟨s', hs', hx⟩ := feature_apply (s := s.step)
      (g := OpenFeature.close
        { name := k.strip (Text.trim l.text) .feature, line := s.step.position })
      (.rest hd hp hgap hrest) hone
    obtain ⟨-, hfeature⟩ := hread.of_ok hx
    refine ⟨s', hs', ?_⟩
    rw [reading_begin ht hb hl, hfeature.same, hnumber, ← State.position_step ht,
      OpenFeature.extend_begun]

/-- What is accepted is derived. -/
lemma document_sound (fs : List Feature) (s : State)
    (hok : (s.reading k fs none).rejection = none) :
    ∃ new, Document k s.lines new ∧ s.reading k fs none = { features := fs.reverse ++ new } := by
  obtain ⟨new, rest, hnew, ⟨hgap, hread⟩ | ⟨_, r, hread⟩⟩ := passage_reads (k := k) fs s
  · exact ⟨new, hnew.document hgap, hread⟩
  · rw [hread] at hok
    exact absurd hok (by simp)

/-- What is derived is accepted. -/
lemma document_complete {input : List Line} {new : List Feature} (h : Document k input new)
    (hs : s.lines = input) (fs : List Feature) :
    s.reading k fs none = { features := fs.reverse ++ new } := by
  induction h generalizing s fs with
  | stop hgap =>
    subst hs
    obtain ⟨s₁, -, ⟨_, -, hgap', hr₁⟩ | ⟨_, _, hfalse⟩⟩ :=
      skipBlanks_reads (skipsBlanks_none k) fs s
    case inr => exact hfalse.elim
    rw [hr₁, State.reading_nil (State.texts_eq_nil (hgap'.unique hgap)), List.append_nil]
    rfl
  | @feature l input next rest g new hgap hf _ ih =>
    subst hs
    obtain ⟨s₁, -, ⟨_, -, hgap', hr₁⟩ | ⟨_, _, hfalse⟩⟩ :=
      skipBlanks_reads (skipsBlanks_none k) fs s
    case inr => exact hfalse.elim
    have hb : ¬ Text.isBlank l.text := hgap.head l rfl
    obtain ⟨s₂, hs₂, hr₂⟩ := reading_feature fs (hgap'.unique hgap) hb hf
    rw [hr₁, hr₂, ih hs₂ (g :: fs), List.reverse_cons, List.append_assoc]
    rfl

end Descent

/-! ### Documents -/

/-- What the machine accepts is derived by the grammar. -/
lemma KeywordTable.read_sound {ls : List Text} (h : (k.read ls).rejection = none) :
    Document k (numberFrom 0 ls) (k.read ls).features := by
  obtain ⟨new, hnew, heq⟩ :=
    Descent.document_sound (k := k) [] { cursor := { lines := ls } } h
  have hread : k.read ls = { features := new } := heq
  rw [hread]
  exact hnew

/-- What the grammar derives is accepted by the machine. -/
lemma KeywordTable.read_complete {ls : List Text} {features : List Feature}
    (h : Document k (numberFrom 0 ls) features) : k.read ls = { features := features } :=
  Descent.document_complete (s := { cursor := { lines := ls } }) h rfl []

/-- A document is accepted with some features exactly if the grammar derives them, with the numbers
of their lines; and it derives no other ones then. -/
theorem KeywordTable.parse_ok_iff (k : KeywordTable) (resolver : Option Resolver)
    (document : Source) (source : Text) (features : List Feature) :
    ((k.parse resolver document source).outcome.ok ∧
        (k.parse resolver document source).outcome.features.map Feature.unbound = features ↔
      Document k (numberFrom 0 document.toLines) features) ∧
    (Document k (numberFrom 0 document.toLines) features →
      ∀ features', Document k (numberFrom 0 document.toLines) features' → features' = features) := by
  have hunbound := (k.read document.toLines).unbound_parsing resolver source
  refine ⟨⟨?_, ?_⟩, ?_⟩
  · rintro ⟨hok, rfl⟩
    have hrejection : (k.read document.toLines).rejection = none := Option.isNone_iff_eq_none.mp hok
    have h := read_sound hrejection
    rwa [parse, hunbound, h.unbound]
  · intro h
    have hread := read_complete h
    constructor
    · rw [Outcome.ok, parse_rejection, hread]
      rfl
    · rw [parse, hunbound, hread, h.unbound]
  · intro h features' h'
    have heq := (read_complete h').symm.trans (read_complete h)
    exact congrArg Reading.features heq

end FeatureDocs
