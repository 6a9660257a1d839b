import FeatureDocs.Proofs.Concatenation
import FeatureDocs.Proofs.Keywords

/-!
# Looking ahead

The two looks ahead, for a conjunction and for the next feature, are at the line as it stands, and
then the line is read trimmed. The looks agree unless trimming cuts the keyword, which has to end in
a blank then (`KeywordTable.look_ahead_agrees`). A language has such keywords, and there a line that
was taken for one more step is rejected because it is none
(`KeywordTable.look_ahead_disagrees_russian`).
-/

namespace FeatureDocs

variable {k : KeywordTable} {c : Category} {w t line : Text}

/-! ### Keywords and what stands behind them -/

namespace KeywordTable

lemma beginsWith_append (w t : Text) : beginsWith w (w ++ t) := by
  rw [beginsWith, List.take_left]
  exact beq_self_eq_true _

/-- A line begins with a keyword that is written there, if it does not begin with a blank. -/
lemma matches_append (hw : w ∈ k.candidates c) (hbegins : ¬ (w ++ t : Text).BeginsBlank) :
    k.Matches (w ++ t) c := by
  refine matches_iff.mpr ⟨w, hw, ?_⟩
  rw [Text.trimStart_eq_self_iff.mpr hbegins]
  exact beginsWith_append w t

/-- No line begins with a keyword that begins with a blank. -/
lemma not_beginsWith_of_beginsBlank (hw : w.BeginsBlank) (line : Text) :
    ¬ beginsWith w (Text.trimStart line) := by
  intro hb
  have hlower : (Text.lower ((Text.trimStart line).take w.length)).BeginsBlank := by
    rw [beq_iff_eq.mp hb]
    exact Text.beginsBlank_lower.mpr hw
  have htake : (Text.trimStart line).BeginsBlank := by
    rw [Text.beginsBlank_lower, Text.BeginsBlank, List.head?_take] at hlower
    split_ifs at hlower
    · exact absurd hlower (by simp)
    · exact hlower
  exact Text.trimStart_eq_self_iff.mp (List.dropWhile_idempotent _ _) htake

end KeywordTable

lemma Text.not_beginsBlank_append (hw : ¬ w.BeginsBlank) (ht : Text.trim t = t) :
    ¬ (w ++ t : Text).BeginsBlank := by
  cases w with
  | nil => exact not_beginsBlank_of_trim_eq_self ht
  | cons a w => exact hw

lemma Text.not_endsBlank_append (hw : t ≠ [] ∨ ¬ w.EndsBlank) (ht : Text.trim t = t) :
    ¬ (w ++ t : Text).EndsBlank := by
  rcases eq_or_ne t [] with rfl | hne
  · rw [List.append_nil]
    exact hw.resolve_left (by simp)
  · rw [endsBlank_append hne]
    exact not_endsBlank_of_trim_eq_self ht

/-! ### Lines that are looked at ahead -/

namespace ReaderState

variable {s : ReaderState} {f : OpenFeature} {b : Block} {step : OpenStep}

/-- A line that begins with a conjunction is one more step of the section. -/
lemma read_conjunction (hc : s.current = some (f, .step b step))
    (hpassed : step.offer line = .passed) (hline : k.Matches line .conjunction)
    (htrim : k.Matches (Text.trim line) .conjunction) :
    ∃ text, s.read k line = .ok (s.advance.goto f
      (.step (b.addStep step.close) { kind := step.kind, text, line := s.line + 1 })) := by
  simp only [ReaderState.read, hc, hpassed, ReaderState.readAfterStep, if_pos hline,
    ReaderState.readStep, if_pos htrim]
  split_ifs
  · exact ⟨_, rfl⟩
  · exact ⟨_, rfl⟩

/-- A line that begins like a feature begins the next one. -/
lemma readBody_feature (s : ReaderState) (f : OpenFeature) (hline : k.Matches line .feature)
    (htrim : k.Matches (Text.trim line) .feature) :
    ∃ name, s.readBody k f line =
      .ok ((s.complete f).goto { name, line := s.line } .body) := by
  simp only [ReaderState.readBody, if_pos hline, ReaderState.readFeature, if_pos htrim]
  exact ⟨_, rfl⟩

end ReaderState

namespace KeywordTable

/-- A keyword can be used unless there is a blank at its beginning: a line that begins with it does
so when it is trimmed, except for a keyword with a blank at its end and nothing behind. And wherever
a line is looked at ahead and begins with a keyword, it does so when it is read, unless trimming cuts
the keyword; so it is one more step of the section, or the next feature. -/
theorem look_ahead_agrees (k : KeywordTable) :
    (∀ c, ∀ w ∈ k.candidates c,
      (w.BeginsBlank → ∀ line, ¬ beginsWith w (Text.trimStart line)) ∧
      (¬ w.BeginsBlank → ∀ t, Text.trim t = t →
        k.Matches (w ++ t) c ∧ (t ≠ [] ∨ ¬ w.EndsBlank → k.Matches (Text.trim (w ++ t)) c))) ∧
    (∀ line c, k.Matches line c → ¬ k.CutsKeyword line c → k.Matches (Text.trim line) c) ∧
    (∀ (s : ReaderState) f b step line, s.current = some (f, .step b step) →
      step.offer line = .passed → k.Matches line .conjunction →
      ¬ k.CutsKeyword line .conjunction →
      ∃ text, s.read k line = .ok (s.advance.goto f
        (.step (b.addStep step.close) { kind := step.kind, text, line := s.line + 1 }))) ∧
    ∀ (s : ReaderState) f line, k.Matches line .feature → ¬ k.CutsKeyword line .feature →
      ∃ name, s.readBody k f line =
        .ok ((s.complete f).goto { name, line := s.line } .body) := by
  refine ⟨?_, fun _ _ => matches_trim, ?_, ?_⟩
  · intro c w hw
    refine ⟨not_beginsWith_of_beginsBlank, fun hbegins t ht => ?_⟩
    have hline := Text.not_beginsBlank_append hbegins ht
    refine ⟨matches_append hw hline, fun hends => ?_⟩
    -- nothing is trimmed off: the line ends with the text or, without one, with the keyword
    rw [Text.trim_eq_self hline (Text.not_endsBlank_append hends ht)]
    exact matches_append hw hline
  · intro s f b step line hc hpassed hline hcut
    exact ReaderState.read_conjunction hc hpassed hline (matches_trim hline hcut)
  · intro s f line hline hcut
    exact s.readBody_feature f hline (matches_trim hline hcut)

/-- A keyword that ends in a blank, with a text behind, on a line that is one more step; and a line
with blanks around that begins the next feature. -/
theorem look_ahead_agrees_russian :
    let k := ofEntry "ru" Dataset.russian
    let f : OpenFeature := { name := "a", line := 1 }
    let b : Block := { role := .scenario, name := "b", line := 2 }
    let step : OpenStep := { kind := .context, text := "c", line := 3 }
    let s : ReaderState := { line := 3, current := some (f, .step b step) }
    ("И " : Text) ∈ k.candidates .conjunction ∧ Text.EndsBlank "И " ∧ Text.trim "d" = "d" ∧
      k.Matches "И d" .conjunction ∧ k.Matches (Text.trim "И d") .conjunction ∧
      ¬ k.CutsKeyword " И d " .conjunction ∧ k.Matches (Text.trim " И d ") .conjunction ∧
      (∃ text, s.read k " И d " = .ok (s.advance.goto f
        (.step (b.addStep step.close) { kind := .context, text, line := 4 }))) ∧
      ∃ name, s.readBody k f "Функция: e " =
        .ok ((s.complete f).goto { name, line := 3 } .body) := by
  intro k f b step s
  obtain ⟨hwritten, hread, hconjunction, hfeature⟩ := look_ahead_agrees k
  have hmem : ("И " : Text) ∈ k.candidates .conjunction := by decide +kernel
  have hcut : ¬ k.CutsKeyword " И d " .conjunction := by decide +kernel
  have hline : k.Matches " И d " .conjunction := by decide +kernel
  obtain ⟨hraw, htrimmed⟩ := (hwritten .conjunction "И " hmem).2 (by decide) "d" (by decide)
  refine ⟨hmem, by decide, by decide, hraw, htrimmed (.inl (by decide)), hcut, ?_, ?_, ?_⟩
  · exact hread " И d " .conjunction hline hcut
  · exact hconjunction s f b step " И d " rfl rfl hline hcut
  · exact hfeature s f "Функция: e " (by decide +kernel) (by decide +kernel)

/-- A keyword that ends in a blank, with nothing behind: the line begins with it as it stands, and
not when it is trimmed. So it is taken for one more step of the section, and rejected for not being
one. -/
theorem look_ahead_disagrees_russian :
    let k := ofEntry "ru" Dataset.russian
    ("И " : Text) ∈ k.candidates .conjunction ∧ Text.trim ([] : Text) = [] ∧
      k.Matches (("И " : Text) ++ []) .conjunction ∧
      ¬ k.Matches (Text.trim (("И " : Text) ++ [])) .conjunction ∧
      (k.parse none
        (.lines ["Функция: a", "Сценарий: b", "Дано c", "И ", "Когда d", "Тогда e"])
          []).outcome.rejection.map (·.message) =
        some ("Expected a Given step at line 4" : Text) := by
  intro k
  exact ⟨by decide +kernel, by decide, by decide +kernel, by decide +kernel, by decide +kernel⟩

end KeywordTable

end FeatureDocs
