import FeatureDocs.Document.Reading
import FeatureDocs.Keyword.Packaged
import FeatureDocs.Proofs.Letters
import Mathlib.Data.Fintype.Basic
import Mathlib.Tactic.SplitIfs

/-!
# Keywords that exclude each other

In the packaged languages no keyword begins like one of another category, or like one that is tried
after it (`Distinct`, `distinct_packaged`). A keyword that a line begins with has a lower form that
is a beginning of the lower letters of the line, so what holds of keywords holds of lines: a line has
one category at most, its longest keyword is the one that counts, and it does not matter in which
order the categories are tried (`KeywordTable.match_unique`).
-/

namespace FeatureDocs

instance : Fintype Category := ⟨⟨Category.all, by decide⟩, Category.mem_all⟩

namespace KeywordTable

/-- Keywords that can be told from each other, and from rows and the marker of a doc string. -/
structure Distinct (k : KeywordTable) : Prop where
  letterwise : ∀ c, ∀ w ∈ k.candidates c, Text.Letterwise w
  apart : ∀ c c', c ≠ c' → ∀ w ∈ k.candidates c, ∀ w' ∈ k.candidates c',
    ¬ Text.lower w <+: Text.lower w'
  longestFirst : ∀ c, (k.candidates c).Pairwise fun w w' => ¬ Text.lower w <+: Text.lower w'
  head : ∀ c, ∀ w ∈ k.candidates c,
    (Text.lower w).head? ∉ [none, some DataTable.bar, docStringMarker.head?]
  last : ∀ w ∈ k.candidates .feature, ¬ (Text.lower w).getLast?.any Text.isBlankChar

instance (k : KeywordTable) : Decidable k.Distinct :=
  decidable_of_iff (_ ∧ _ ∧ _ ∧ _ ∧ _)
    ⟨fun ⟨h₁, h₂, h₃, h₄, h₅⟩ => ⟨h₁, h₂, h₃, h₄, h₅⟩,
      fun ⟨h₁, h₂, h₃, h₄, h₅⟩ => ⟨h₁, h₂, h₃, h₄, h₅⟩⟩

/-- In every packaged language no keyword is the beginning of another category's. -/
lemma distinct_packaged : ∀ e ∈ Dataset.packaged.languages, (ofEntry e.1 e.2).Distinct := by
  decide +kernel

lemma distinct_of_select {language : Text} {k : KeywordTable}
    (h : select Dataset.packaged language = .ok k) : k.Distinct := by
  obtain ⟨e, he, rfl⟩ := exists_entry_of_select h
  exact distinct_packaged e he

variable {k : KeywordTable} {line text text' : Text} {c c' : Category} {w w' : Text}

/-! ### Beginnings of a line -/

lemma matches_iff :
    k.Matches line c ↔ ∃ w ∈ k.candidates c, beginsWith w (Text.trimStart line) := by
  rw [Matches, match?, List.find?_isSome]

/-- Trimming a line cuts a keyword that it begins with: one that ends in a blank, and is longer than
what is left of the line. -/
def CutsKeyword (k : KeywordTable) (line : Text) (c : Category) : Prop :=
  ∃ w ∈ k.candidates c, w.EndsBlank ∧ (Text.trim line).length < w.length ∧
    beginsWith w (Text.trimStart line)

instance (k : KeywordTable) (line : Text) (c : Category) : Decidable (k.CutsKeyword line c) :=
  inferInstanceAs (Decidable (∃ w ∈ k.candidates c, _))

/-- A line that begins with a keyword does so when it is trimmed, unless that cuts the keyword. -/
lemma matches_trim (h : k.Matches line c) (hcut : ¬ k.CutsKeyword line c) :
    k.Matches (Text.trim line) c := by
  obtain ⟨w, hw, hb⟩ := matches_iff.mp h
  obtain ⟨q, hq, hline⟩ := Text.trimStart_eq_append line
  have hof : (Text.trimStart line).take w.length = (Text.trim line).take w.length →
      k.Matches (Text.trim line) c := by
    intro htake
    refine matches_iff.mpr ⟨w, hw, ?_⟩
    rwa [Text.trimStart_trim, beginsWith, ← htake]
  rcases Nat.lt_or_ge (Text.trim line).length w.length with hlt | hle
  · rcases eq_or_ne q [] with rfl | hne
    · exact hof (by rw [hline, List.append_nil])
    -- the keyword goes on in the blank text behind, so it ends there
    have hblank : Text.EndsBlank (q.take (w.length - (Text.trim line).length)) := by
      apply Text.endsBlank_of_isBlank
      · exact Text.isBlank_iff.mpr fun a ha => Text.isBlank_iff.mp hq a (List.mem_of_mem_take ha)
      · rw [← List.length_pos_iff] at hne ⊢
        rw [List.length_take]
        omega
    have hends : Text.EndsBlank ((Text.trimStart line).take w.length) := by
      rw [hline, List.take_append, Text.endsBlank_append]
      · exact hblank
      · rintro hnil
        rw [hnil] at hblank
        exact absurd hblank (by decide)
    rw [← Text.endsBlank_lower, beq_iff_eq.mp hb, Text.endsBlank_lower] at hends
    exact absurd ⟨w, hw, hends, hlt, hb⟩ hcut
  · exact hof (by rw [hline, List.take_append_of_le_length hle])

/-- What a text is cut to has the letters of the keyword. -/
lemma map_take_of_beginsWith (hw : Text.Letterwise w) (h : beginsWith w text) :
    (text.take w.length).map Text.lowerLetter = Text.lower w := by
  have hlower : Text.lower (text.take w.length) = Text.lower w := beq_iff_eq.mp h
  have htext : Text.Letterwise (text.take w.length) := by
    rw [Text.Letterwise, hlower]
    exact hw
  rw [← htext.lower_eq, hlower]

lemma lower_prefix_of_beginsWith (hw : Text.Letterwise w) (h : beginsWith w text) :
    Text.lower w <+: text.map Text.lowerLetter := by
  rw [← map_take_of_beginsWith hw h, List.map_take]
  exact List.take_prefix _ _

/-- No keyword is longer than a text that begins with it. -/
lemma length_le_of_beginsWith (hw : Text.Letterwise w) (h : beginsWith w text) :
    w.length ≤ text.length := by
  have hle := (lower_prefix_of_beginsWith hw h).length_le
  rwa [hw.length_lower, List.length_map] at hle

/-- A keyword that begins the beginning of a text begins the text. -/
lemma beginsWith_of_prefix (hw : Text.Letterwise w) (htext : text' <+: text)
    (h : beginsWith w text') : beginsWith w text := by
  have htake : text.take w.length = text'.take w.length := by
    obtain ⟨rest, rfl⟩ := htext
    exact List.take_append_of_le_length (length_le_of_beginsWith hw h)
  rwa [beginsWith, htake]

namespace Distinct

variable (hk : k.Distinct)
include hk

/-! ### One category and one keyword -/

/-- A line begins with the keywords of one category at most. -/
lemma eq_of_matches (h : k.Matches line c) (h' : k.Matches line c') : c = c' := by
  by_contra hne
  obtain ⟨w, hw, hb⟩ := matches_iff.mp h
  obtain ⟨w', hw', hb'⟩ := matches_iff.mp h'
  have hp := lower_prefix_of_beginsWith (hk.letterwise c w hw) hb
  have hp' := lower_prefix_of_beginsWith (hk.letterwise c' w' hw') hb'
  rcases List.prefix_or_prefix_of_prefix hp hp' with hpre | hpre
  · exact hk.apart c c' hne w hw w' hw' hpre
  · exact hk.apart c' c (Ne.symm hne) w' hw' w hw hpre

/-- The keyword that counts is the longest one. -/
lemma length_le_of_match? (h : k.match? line c = some w) (hw' : w' ∈ k.candidates c)
    (hb' : beginsWith w' (Text.trimStart line)) : w'.length ≤ w.length := by
  obtain ⟨hb, before, behind, hcandidates, hbefore⟩ := List.find?_eq_some_iff_append.mp h
  have hlongest := hk.longestFirst c
  rw [hcandidates] at hw' hlongest
  rcases List.mem_append.mp hw' with hin | hin
  · -- a keyword that is tried before does not begin the line
    have hnot := hbefore w' hin
    rw [hb'] at hnot
    exact absurd hnot (by simp)
  rcases List.mem_cons.mp hin with rfl | hin
  · exact Nat.le_refl _
  · have hw : Text.Letterwise w := hk.letterwise c w (by rw [hcandidates]; simp)
    have hw' : Text.Letterwise w' := hk.letterwise c w' (by rw [hcandidates]; simp [hin])
    have hnot : ¬ Text.lower w <+: Text.lower w' :=
      List.rel_of_pairwise_cons (List.pairwise_append.mp hlongest).2.1 hin
    have hp := lower_prefix_of_beginsWith hw hb
    have hp' := lower_prefix_of_beginsWith hw' hb'
    have hpre := (List.prefix_or_prefix_of_prefix hp hp').resolve_left hnot
    rw [← hw.length_lower, ← hw'.length_lower]
    exact hpre.length_le

/-! ### Trimmed lines -/

/-- What a line begins with when it is trimmed it begins with as it stands. -/
lemma matches_of_trim (h : k.Matches (Text.trim line) c) : k.Matches line c := by
  obtain ⟨w, hw, hb⟩ := matches_iff.mp h
  obtain ⟨q, -, hline⟩ := Text.trimStart_eq_append line
  rw [Text.trimStart_trim] at hb
  exact matches_iff.mpr ⟨w, hw, beginsWith_of_prefix (hk.letterwise c w hw) ⟨q, hline.symm⟩ hb⟩

/-- Trimming a line does not cut the keyword of a feature, which does not end in a blank. -/
lemma matches_trim_feature (h : k.Matches line .feature) :
    k.Matches (Text.trim line) .feature := by
  refine matches_trim h ?_
  rintro ⟨w, hw, hends, -⟩
  exact hk.last w hw (Text.endsBlank_lower.mpr hends)

/-! ### Lines that begin with no keyword -/

/-- A line that begins with a keyword is not blank, no row and no marker. -/
lemma head_of_matches (h : k.Matches line c) :
    ∃ a rest, Text.trimStart line = a :: rest ∧ a ≠ DataTable.bar ∧ a ≠ '"' := by
  obtain ⟨w, hw, hb⟩ := matches_iff.mp h
  have hp := lower_prefix_of_beginsWith (hk.letterwise c w hw) hb
  have hhead := hk.head c w hw
  cases hlower : Text.lower w with
  | nil =>
    rw [hlower] at hhead
    simp at hhead
  | cons b letters =>
    rw [hlower] at hhead hp
    cases htext : Text.trimStart line with
    | nil =>
      rw [htext] at hp
      simp at hp
    | cons a rest =>
      rw [htext, List.map_cons, List.cons_prefix_cons] at hp
      obtain ⟨rfl, -⟩ := hp
      refine ⟨a, rest, rfl, ?_, ?_⟩
      · rintro rfl
        exact hhead (List.mem_cons_of_mem _ List.mem_cons_self)
      · rintro rfl
        exact hhead (List.mem_cons_of_mem _ (List.mem_cons_of_mem _ List.mem_cons_self))

lemma not_isBlank_of_matches (h : k.Matches line c) : ¬ Text.isBlank line := by
  obtain ⟨a, rest, hline, -, -⟩ := hk.head_of_matches h
  rw [← Text.trimStart_eq_nil_iff, hline]
  exact List.cons_ne_nil _ _

/-- The first character of a line that is trimmed is that of the line behind its indentation. -/
lemma head_trim_of_matches (h : k.Matches line c) :
    (Text.trim line).head? ≠ some DataTable.bar ∧ (Text.trim line).head? ≠ some '"' := by
  obtain ⟨a, rest, hline, hbar, hquote⟩ := hk.head_of_matches h
  obtain ⟨q, -, htrim⟩ := Text.trimStart_eq_append line
  rw [hline] at htrim
  cases ht : Text.trim line with
  | nil => simp
  | cons b letters =>
    rw [ht, List.cons_append, List.cons.injEq] at htrim
    obtain ⟨rfl, -⟩ := htrim
    simp [hbar, hquote]

lemma not_isRow_of_matches (h : k.Matches line c) : ¬ DataTable.isRow line := by
  rw [DataTable.isRow, beq_iff_eq]
  exact (hk.head_trim_of_matches h).1

lemma trim_ne_of_matches (h : k.Matches line c) : Text.trim line ≠ docStringMarker := by
  intro hmarker
  have hquote := (hk.head_trim_of_matches h).2
  rw [hmarker] at hquote
  exact hquote rfl

end Distinct

end KeywordTable

/-! ### The order of the tests -/

/-- Where one element of a list at most passes a test, it is found in any order. -/
lemma find?_eq_of_perm {α : Type} {p : α → Bool} {l l' : List α} (hl : l.Perm l')
    (h : ∀ a b, p a → p b → a = b) : l.find? p = l'.find? p := by
  have hfind : ∀ (l : List α) (a : α), l.find? p = some a ↔ a ∈ l ∧ p a := by
    intro l a
    refine ⟨fun ha => ⟨List.mem_of_find?_eq_some ha, List.find?_some ha⟩, fun ⟨hmem, ha⟩ => ?_⟩
    obtain ⟨b, hb⟩ := Option.isSome_iff_exists.mp (List.find?_isSome.mpr ⟨a, hmem, ha⟩)
    rw [hb, h a b ha (List.find?_some hb)]
  apply Option.ext
  intro a
  rw [hfind, hfind, hl.mem_iff]

/-- What a line between two blocks may begin with: the next feature as it stands, and a block when
it is trimmed. -/
def KeywordTable.Begins (k : KeywordTable) (line : Text) (c : Category) : Prop :=
  k.Matches (if c = .feature then line else Text.trim line) c

instance (k : KeywordTable) (line : Text) (c : Category) : Decidable (k.Begins line c) :=
  inferInstanceAs (Decidable (k.Matches _ c))

namespace ReaderState

variable (k : KeywordTable) (s : ReaderState)

/-- What a line between two blocks does when it was found to begin with a category, or with none. -/
def readBodyAs (f : OpenFeature) (line : Text) : Option Category → Except Reading ReaderState
  | some .feature => (s.complete f).readFeature k line
  | some .background =>
    if f.background.isSome then .error (s.reject .duplicateBackground)
    else .ok (s.goto f (.head { role := .background, name := [], line := s.line }))
  | some .outline =>
    .ok (s.goto f (.head
      { role := .outline, name := k.strip (Text.trim line) .outline, line := s.line }))
  | some .scenario =>
    .ok (s.goto f (.head
      { role := .scenario, name := k.strip (Text.trim line) .scenario, line := s.line }))
  | _ =>
    if f.hasBlock then .error (s.reject .unexpectedLine)
    else .ok (s.goto (f.describe (Text.trim line)) .body)

/-- What a line does that has to be a step, when it was found to begin with a category, or with
none. -/
def readStepAs (f : OpenFeature) (b : Block) (kind : StepKind) (line : Text) :
    Option Category → Except Reading ReaderState
  | some c => .ok (s.goto f (.step b { kind, text := k.strip (Text.trim line) c, line := s.line }))
  | none => .error (s.reject (.expectedStep kind))

/-- The body of a feature depends on the line only through the first category that claims it. -/
lemma readBody_eq (f : OpenFeature) (line : Text) :
    s.readBody k f line =
      s.readBodyAs k f line
        ([Category.feature, .background, .outline, .scenario].find? (k.Begins line ·)) := by
  simp only [readBody, List.find?, KeywordTable.Begins, if_true, reduceCtorEq, if_false]
  by_cases hf : k.Matches line .feature
  · simp [hf, readBodyAs]
  by_cases hb : k.Matches (Text.trim line) .background
  · simp [hf, hb, readBodyAs]
  by_cases ho : k.Matches (Text.trim line) .outline
  · simp [hf, hb, ho, readBodyAs]
  by_cases hs : k.Matches (Text.trim line) .scenario
  · simp [hf, hb, ho, hs, readBodyAs]
  · simp [hf, hb, ho, hs, readBodyAs]

/-- A step depends on the line only through the first category that claims it. -/
lemma readStep_eq (f : OpenFeature) (b : Block) (kind : StepKind) (line : Text) :
    s.readStep k f b kind line =
      s.readStepAs k f b kind line
        ([kind.category, .conjunction].find? (k.Matches (Text.trim line) ·)) := by
  simp only [readStep, List.find?]
  by_cases hp : k.Matches (Text.trim line) kind.category
  · simp [hp, readStepAs]
  by_cases hc : k.Matches (Text.trim line) .conjunction
  · simp [hp, hc, readStepAs]
  · simp [hp, hc, readStepAs]

end ReaderState

namespace KeywordTable

variable {k : KeywordTable} {line : Text}

lemma Distinct.matches_of_begins (hk : k.Distinct) {c : Category} (h : k.Begins line c) :
    k.Matches line c := by
  rw [Begins] at h
  split_ifs at h
  · exact h
  · exact hk.matches_of_trim h

/-- In a packaged language a line begins with the keywords of one category at most, be it trimmed or
not; the keyword that counts, which is what is taken away, is the longest one that the line begins
with. So it makes no difference in which order the categories are tried, between two blocks and in a
section. -/
theorem match_unique (language : Text) (k : KeywordTable)
    (hk : select Dataset.packaged language = .ok k) (line : Text) :
    (∀ c c', k.Matches line c → k.Matches line c' → c = c') ∧
      (∀ c, k.Matches (Text.trim line) c → k.Matches line c) ∧
      (∀ c w, k.match? line c = some w →
        (w ∈ k.candidates c ∧ beginsWith w (Text.trimStart line)) ∧
          (∀ w' ∈ k.candidates c, beginsWith w' (Text.trimStart line) → w'.length ≤ w.length) ∧
          k.strip line c = Text.trim ((Text.trimStart line).drop w.length)) ∧
      (∀ tests : List Category, tests.Perm [.feature, .background, .outline, .scenario] →
        ∀ (s : ReaderState) (f : OpenFeature),
          s.readBody k f line = s.readBodyAs k f line (tests.find? (k.Begins line ·))) ∧
      ∀ (kind : StepKind) (tests : List Category), tests.Perm [kind.category, .conjunction] →
        ∀ (s : ReaderState) (f : OpenFeature) (b : Block),
          s.readStep k f b kind line =
            s.readStepAs k f b kind line (tests.find? (k.Matches (Text.trim line) ·)) := by
  -- the packaged keywords are checked once, and all that follows rests on their being distinct
  have hdistinct := distinct_of_select hk
  refine ⟨?_, ?_, ?_, ?_, ?_⟩
  · intro c c' h h'
    exact hdistinct.eq_of_matches h h'
  · intro c h
    exact hdistinct.matches_of_trim h
  · intro c w h
    have hbegins := List.find?_some h
    refine ⟨⟨List.mem_of_find?_eq_some h, hbegins⟩, ?_, ?_⟩
    · intro w' hw' hb'
      exact hdistinct.length_le_of_match? h hw' hb'
    · rw [strip, h]
  · intro tests htests s f
    rw [s.readBody_eq k f line, find?_eq_of_perm htests]
    intro c c' h h'
    exact hdistinct.eq_of_matches (hdistinct.matches_of_begins (of_decide_eq_true h))
      (hdistinct.matches_of_begins (of_decide_eq_true h'))
  · intro kind tests htests s f b
    rw [s.readStep_eq k f b kind line, find?_eq_of_perm htests]
    intro c c' h h'
    exact hdistinct.eq_of_matches (of_decide_eq_true h) (of_decide_eq_true h')

/-- The longest of three French keywords in capital letters, and a step that is tried as a
conjunction first. -/
theorem match_unique_french :
    let k := ofEntry "fr" Dataset.french
    let line : Text := " ÉTANT DONNÉ QUE a"
    select Dataset.packaged "fr" = .ok k ∧
      k.match? line .context = some ("Étant donné que" : Text) ∧
      k.strip line .context = "a" ∧
      (∀ w' ∈ k.candidates .context, beginsWith w' (Text.trimStart line) → w'.length ≤ 15) ∧
      (∀ c, k.Matches line c → c = .context) ∧
      ∀ (s : ReaderState) (f : OpenFeature) (b : Block),
        s.readStep k f b .context line =
          s.readStepAs k f b .context line
            ([.conjunction, .context].find? (k.Matches (Text.trim line) ·)) := by
  intro k line
  have hselect : select Dataset.packaged "fr" = .ok k := by rfl
  have hmatch : k.match? line .context = some ("Étant donné que" : Text) := by decide +kernel
  obtain ⟨hunique, -, hlongest, -, horder⟩ := match_unique "fr" k hselect line
  obtain ⟨-, hle, hstrip⟩ := hlongest .context _ hmatch
  refine ⟨hselect, hmatch, ?_, hle, ?_, ?_⟩
  · rw [hstrip]
    decide +kernel
  · intro c hc
    exact hunique c .context hc (by rw [Matches, hmatch]; rfl)
  · intro s f b
    exact horder .context [.conjunction, .context] (List.Perm.swap _ _ _) s f b

end KeywordTable

end FeatureDocs
