import FeatureDocs.Proofs.Acceptance

/-!
# Every document is parsed

The descent ends on every document, with the outcome, the questions and the messages of
`KeywordTable.parse`; nothing but a rejection stops it, and its cursor only moves forward within the
lines (`KeywordTable.descend_eq`). Whatever has been collected at the head of a feature is what
parsing makes of the features before it (`Records`).
-/

namespace FeatureDocs

variable {resolver : Option Resolver} {source : Text}

/-! ### What is said about features -/

/-- What is said about some complete features, the first of which has the given number. -/
def featuresLog (resolver : Option Resolver) (fs : List Feature) : Log :=
  (fs.zip ((fs.map (·.name)).mapIdx (lookupAt resolver))).flatMap
    fun (f, found) => found.log f.name ++ f.log

/-- Each feature adds what is said when it is begun and what is said when it is complete. -/
lemma featuresLog_append (fs : List Feature) (f : Feature) :
    featuresLog resolver (fs ++ [f]) =
      featuresLog resolver fs ++ ((lookupAt resolver fs.length f.name).log f.name ++ f.log) := by
  have hlen : fs.length = ((fs.map (·.name)).mapIdx (lookupAt resolver)).length := by simp
  rw [featuresLog, List.map_append, List.mapIdx_append, List.zip_append hlen, List.flatMap_append]
  simp [featuresLog]

/-- What is said of a document: of each feature in it, of the one that was left behind, and of the
rejection. -/
lemma Reading.parsing_log (r : Reading) :
    (r.parsing resolver source).log =
      featuresLog resolver r.features ++
        r.abandoned.toList.flatMap
          (fun name => (lookupAt resolver r.features.length name).log name) ++
        r.rejection.toList.flatMap (·.log source) := by
  have hlen : r.features.length =
      ((r.features.map (·.name)).mapIdx (lookupAt resolver)).length := by simp
  have hzip : ∀ more, r.features.zip
      ((r.features.map (·.name)).mapIdx (lookupAt resolver) ++ more) =
        r.features.zip ((r.features.map (·.name)).mapIdx (lookupAt resolver)) := by
    intro more
    have happend : (r.features ++ []).zip (_ ++ more) = _ := List.zip_append hlen
    rwa [List.append_nil, List.zip_nil_left, List.append_nil] at happend
  have hdrop : ∀ more, ((r.features.map (·.name)).mapIdx (lookupAt resolver) ++ more).drop
      r.features.length = more := by
    intro more
    rw [hlen, List.drop_left]
  rw [Reading.parsing, Reading.names, List.mapIdx_append]
  simp only [hzip, hdrop, featuresLog]
  cases r.abandoned <;> simp

/-- A rejection is reported behind all else. -/
lemma Reading.parsing_rejected {r : Reading} (h : r.rejection = none) (e : Rejection) :
    ({ r with rejection := some e } : Reading).parsing resolver source =
      { outcome :=
          { features := (r.parsing resolver source).outcome.features, rejection := some e, source }
        asked := (r.parsing resolver source).asked
        log := (r.parsing resolver source).log ++ e.log source } := by
  simp [Reading.parsing, Reading.names, h]

namespace Descent

/-! ### What a state records -/

/-- A state in which just that has been collected, asked and said which parsing makes of what was
read. -/
structure Records (resolver : Option Resolver) (source : Text) (r : Reading) (s : State) :
    Prop where
  features : s.features = (r.parsing resolver source).outcome.features
  asked : s.asked = (r.parsing resolver source).asked
  log : s.log = (r.parsing resolver source).log

/-- A state that records a reading has everything of its parsing but the rejection. -/
lemma Records.parsing_eq {r : Reading} {s : State} (h : Records resolver source r s) :
    r.parsing resolver source =
      { outcome := { features := s.features, rejection := r.rejection, source }
        asked := s.asked
        log := s.log } := by
  rw [h.features, h.asked, h.log]
  rfl

/-- The second state has its cursor where the first one has it. -/
def State.Stays (s s' : State) : Prop := s'.cursor = s.cursor ∧ s'.visited = s.visited

variable {k : KeywordTable} {s s' : State} {fs : List Feature} {r : Reading} {f : Feature}
  {name : Text} {c : Option (OpenFeature × Place)}

lemma State.Stays.forward (h : s.Stays s') (hs : s.Forward) : s'.Forward := by
  rw [State.Forward, State.position, h.1, h.2]
  exact hs

lemma State.Stays.texts (h : s.Stays s') : s'.texts = s.texts := by
  rw [State.texts, State.position, h.1, State.texts]

/-- The reader of lines sees nothing of what a search for an implementation leaves in a state. -/
lemma State.Stays.reading (h : s.Stays s') : s'.reading k fs c = s.reading k fs c := by
  rw [State.reading, State.reading, h.texts, State.position, h.1]

/-- Lines that are read leave the record as it is, since features are added and asked about
elsewhere. -/
lemma Records.leads (h : Records resolver source r s) (hs : s.Leads s') :
    Records resolver source r s' := by
  obtain ⟨hfeatures, hasked, hlog, -⟩ := hs.same
  refine ⟨?_, ?_, ?_⟩
  · rw [hfeatures, h.features]
  · rw [hasked, h.asked]
  · rw [hlog, h.log]

/-- A feature is asked about when its first line was read. -/
lemma resolve_apply (h : Records resolver source { features := fs } s) (name : Text) :
    ∃ s', s.Stays s' ∧ Records resolver source { features := fs, abandoned := some name } s' ∧
      resolve resolver name s = some (.ok (lookupAt resolver fs.length name), s') := by
  have hfeatures := h.features
  have hasked := h.asked
  have hlog := h.log
  rw [Reading.parsing_log] at hlog
  cases resolver with
  | none =>
    refine ⟨s, ⟨rfl, rfl⟩, ⟨hfeatures, hasked, ?_⟩, rfl⟩
    rw [hlog, Reading.parsing_log]
    simp [lookupAt, Lookup.log]
  | some find =>
    have hasked' : s.asked = fs.map (·.name) := by
      rw [hasked]
      simp [Reading.parsing, Reading.names]
    -- the resolver has been asked once for each feature so far, so the lookup is the right one
    have hlen : s.asked.length = fs.length := by rw [hasked', List.length_map]
    refine ⟨{ s with
      asked := s.asked ++ [name]
      log := s.log ++ (find fs.length name).log name }, ⟨rfl, rfl⟩, ⟨hfeatures, ?_, ?_⟩, ?_⟩
    · rw [hasked']
      simp [Reading.parsing, Reading.names]
    · rw [hlog, Reading.parsing_log]
      simp [lookupAt]
    · show resolve (some find) name s =
        some (.ok (find fs.length name), { s with
          asked := s.asked ++ [name]
          log := s.log ++ (find fs.length name).log name })
      rw [← hlen]
      rfl

/-- A feature is collected when it is complete. -/
lemma Records.collect (h : Records resolver source { features := fs, abandoned := some f.name } s) :
    Records resolver source { features := fs ++ [f] }
      { s with
        features := s.features ++ [f.bind source (lookupAt resolver fs.length f.name)]
        log := s.log ++ f.log } where
  features := by
    rw [h.features]
    simp [Reading.parsing, List.mapIdx_append]
  asked := by
    rw [h.asked]
    simp [Reading.parsing, Reading.names]
  log := by
    rw [h.log, Reading.parsing_log, Reading.parsing_log]
    simp [featuresLog_append]

/-! ### The whole descent -/

/-- The cursor has moved forward from the first state to the second one, in the same lines. -/
structure State.Advances (s s' : State) : Prop where
  forward : s.Forward → s'.Forward
  lines : s'.cursor.lines = s.cursor.lines

lemma State.Leads.advances (h : s.Leads s') : s.Advances s' := ⟨h.forward, h.same.2.2.2⟩

lemma State.Stays.advances (h : s.Stays s') : s.Advances s' := ⟨h.forward, by rw [h.1]⟩

lemma State.Advances.trans {s'' : State} (h : s.Advances s') (h' : s'.Advances s'') :
    s.Advances s'' :=
  ⟨fun hs => h'.forward (h.forward hs), h'.lines.trans h.lines⟩

/-- A descent has ended as the reader of lines did, in a state that records what was read up to the
rejection. -/
inductive Agrees (resolver : Option Resolver) (source : Text) :
    Reading → Except Stop Unit → State → Prop
  | accepted {r : Reading} {s : State} (hr : r.rejection = none)
      (hrec : Records resolver source r s) : Agrees resolver source r (.ok ()) s
  | rejected {r : Reading} {s : State} (hr : r.rejection = none) (e : Rejection)
      (hrec : Records resolver source r s) :
      Agrees resolver source { r with rejection := some e } (.error (.rejected e)) s

/-- The first line of a feature is read, and the rest of the feature has to follow. -/
lemma document_apply {text : Text} {rest : List Text} (ht : s.texts = text :: rest)
    (hb : ¬ Text.isBlank text) (hf : k.Matches (Text.trim text) .feature) :
    document k resolver source s = (do
      let found ← resolve resolver (k.strip (Text.trim text) .feature)
      let f ← feature k { name := k.strip (Text.trim text) .feature, line := s.step.position } true
      modify fun s => { s with
        features := s.features ++ [f.bind source found]
        log := s.log ++ f.log }
      document k resolver source : Descent Unit) s.step := by
  have hstart : ∀ l ∈ s.texts.head?, ¬ Text.isBlank l := by simpa [ht] using hb
  conv_lhs => rw [document_eq]
  rw [bind_ok (skipBlanks_stay hstart), bind_ok (atEnd_cons ht), if_neg Bool.false_ne_true,
    bind_ok (command_apply ht), if_pos hf, bind_ok line_apply]

/-- One feature of a document: it is collected, or the document is rejected in it. -/
lemma document_feature {text : Text} {rest : List Text} (ht : s.texts = text :: rest)
    (hb : ¬ Text.isBlank text) (hf : k.Matches (Text.trim text) .feature)
    (hrec : Records resolver source { features := fs.reverse } s) :
    (∃ g s', s.Advances s' ∧ s'.texts.length < s.texts.length ∧
        Records resolver source { features := (g :: fs).reverse } s' ∧
        s.reading k fs none = s'.reading k (g :: fs) none ∧
        document k resolver source s = document k resolver source s') ∨
      ∃ e s', s.Advances s' ∧
        document k resolver source s = some (.error (.rejected e), s') ∧
        Agrees resolver source (s.reading k fs none) (.error (.rejected e)) s' := by
  have hs₁ := State.Leads.one ht
  obtain ⟨s₂, hstay, hrec₂, hx₂⟩ :=
    resolve_apply (hrec.leads hs₁) (k.strip (Text.trim text) .feature)
  have hadvances₂ := hs₁.advances.trans hstay.advances
  have hread : Reads
      (feature k { name := k.strip (Text.trim text) .feature, line := s.step.position } true)
      s₂ _ _ :=
    feature_reads fs { name := k.strip (Text.trim text) .feature, line := s.step.position } s₂
  rw [document_apply ht hb hf, bind_ok hx₂, reading_begin ht hb hf, ← hstay.reading]
  -- the feature is complete, or its document is rejected in it
  obtain ⟨s₃, hs₃, ⟨g, hx₃, hg⟩ | ⟨e, hx₃, hr₃⟩⟩ := hread
  · left
    have hname : g.name = k.strip (Text.trim text) .feature := by
      obtain ⟨_, _, -, -, -, rfl⟩ := hg.derived
      rfl
    have hlt : s₃.texts.length < s.texts.length := by
      have hlen := hs₃.length_le
      rw [hstay.texts, State.texts_step ht] at hlen
      rw [ht, List.length_cons]
      exact Nat.lt_succ_of_le hlen
    rw [← hname] at hrec₂
    have hrec₃ := (hrec₂.leads hs₃).collect
    rw [← List.reverse_cons] at hrec₃
    refine ⟨g, { s₃ with
      features := s₃.features ++ [g.bind source (lookupAt resolver fs.reverse.length g.name)]
      log := s₃.log ++ g.log }, ⟨?_, ?_⟩, hlt, hrec₃, hg.same, ?_⟩
    · exact (hadvances₂.trans hs₃.advances).forward
    · exact (hadvances₂.trans hs₃.advances).lines
    · rw [bind_ok hx₃, ← hname]
      rfl
  · right
    refine ⟨e, s₃, hadvances₂.trans hs₃.advances, bind_error hx₃, ?_⟩
    rw [hr₃]
    exact .rejected rfl e (hrec₂.leads hs₃)

/-- From a state that records the features before it, a descent ends as the reader of lines does. -/
lemma document_agrees (fs : List Feature) (s : State)
    (hrec : Records resolver source { features := fs.reverse } s) :
    ∃ out s', document k resolver source s = some (out, s') ∧ s.Advances s' ∧
      Agrees resolver source (s.reading k fs none) out s' := by
  -- on the number of lines that are left: each feature takes its first line at least
  induction hn : s.texts.length using Nat.strong_induction_on generalizing s fs with
  | _ n ih =>
    subst hn
    obtain ⟨s₁, hs₁, ⟨_, hx₁, hgap, hr₁⟩ | ⟨_, _, hfalse⟩⟩ :=
      skipBlanks_reads (skipsBlanks_none k) fs s
    case inr => exact hfalse.elim
    have hrec₁ := hrec.leads hs₁
    have hb : ∀ l ∈ s₁.texts.head?, ¬ Text.isBlank l := State.forall_head_iff.mp hgap.head
    -- a descent skips the blank lines first, so it does the same from behind them
    have hskip : document k resolver source s = document k resolver source s₁ := by
      rw [document_eq, bind_ok hx₁, document_eq, bind_ok (skipBlanks_stay hb)]
    rw [hr₁, hskip]
    cases ht : s₁.texts with
    | nil =>
      refine ⟨.ok (), s₁, ?_, hs₁.advances, ?_⟩
      · rw [document_eq, bind_ok (skipBlanks_stay hb), bind_ok (atEnd_nil ht)]
        rfl
      · rw [State.reading_nil ht]
        exact .accepted rfl hrec₁
    | cons text rest =>
      have hb' : ¬ Text.isBlank text := hb text (by simp [ht])
      by_cases hf : k.Matches (Text.trim text) .feature
      · rcases document_feature ht hb' hf hrec₁ with
          ⟨g, s₂, hadvances, hlt, hrec₂, hr₂, hx₂⟩ | ⟨e, s₂, hadvances, hx₂, hagrees⟩
        · obtain ⟨out, s', hx', hadvances', hagrees⟩ :=
            ih _ (Nat.lt_of_lt_of_le hlt hs₁.length_le) (g :: fs) s₂ hrec₂ rfl
          rw [hr₂, hx₂]
          exact ⟨out, s', hx', hs₁.advances.trans (hadvances.trans hadvances'), hagrees⟩
        · exact ⟨_, s₂, hx₂, hs₁.advances.trans hadvances, hagrees⟩
      · have hs₂ := State.Leads.one ht
        refine ⟨.error (.rejected (.fault .expectedFeature s₁.step.position)), s₁.step, ?_,
          hs₁.advances.trans hs₂.advances, ?_⟩
        · rw [document_eq, bind_ok (skipBlanks_stay hb), bind_ok (atEnd_cons ht),
            if_neg Bool.false_ne_true, bind_ok (command_apply ht), if_neg hf]
          exact reject_apply _
        · rw [reading_expected ht hb' hf]
          exact .rejected rfl _ (hrec₁.leads hs₂)

/-- A descent through a whole document, from its first line. -/
lemma document_fresh (k : KeywordTable) (resolver : Option Resolver) (document : Source)
    (source : Text) :
    ∃ out s', Descent.document k resolver source { cursor := Cursor.ofSource document } =
        some (out, s') ∧
      State.Advances { cursor := Cursor.ofSource document } s' ∧
      Agrees resolver source (k.read document.toLines) out s' := by
  have hrec : Records resolver source { features := [].reverse }
      { cursor := Cursor.ofSource document } := by
    refine ⟨rfl, ?_, ?_⟩
    · cases resolver <;> rfl
    · rfl
  exact document_agrees [] { cursor := Cursor.ofSource document } hrec

end Descent

/-- The descent ends, and gives what parsing gives: it is stopped by rejections alone, of which
there are two kinds. Its cursor moves forward and stays within the lines. -/
theorem KeywordTable.descend_eq (k : KeywordTable) (resolver : Option Resolver)
    (document : Source) (source : Text) :
    ∃ visited,
      k.descend resolver document source =
        some (.ok (k.parse resolver document source, visited)) ∧
      visited.Pairwise (· ≥ ·) ∧ ∀ n ∈ visited, n ≤ document.toLines.length := by
  have hfwd : Descent.State.Forward { cursor := Cursor.ofSource document } := by
    refine ⟨List.pairwise_singleton _ _, ?_⟩
    intro n hn
    exact (List.mem_singleton.mp hn).le
  obtain ⟨out, s, hx, hadvances, hagrees⟩ :=
    Descent.document_fresh k resolver document source
  obtain ⟨hsorted, hle⟩ := hadvances.forward hfwd
  have hbound : ∀ n ∈ s.visited, n ≤ document.toLines.length := by
    intro n hn
    have hposition := s.cursor.position_le
    rw [hadvances.lines] at hposition
    exact (hle n hn).trans hposition
  refine ⟨s.visited, ?_, hsorted, hbound⟩
  rw [descend, hx, parse]
  -- the two ways in which the descent agrees with the reader give the two forms of an outcome
  generalize k.read document.toLines = r at hagrees
  cases hagrees with
  | accepted hr h => rw [h.parsing_eq, hr]
  | rejected hr e h => rw [Reading.parsing_rejected hr, ← h.features, ← h.asked, ← h.log]

end FeatureDocs
