import FeatureDocs.Document.Outcome
import FeatureDocs.Keyword.Packaged
import FeatureDocs.Proofs.Moves
import FeatureDocs.Proofs.Shift
import Mathlib.Data.List.Induction
import Mathlib.Data.Nat.Find

/-!
# Features as documents of their own

The reader of lines forgets all features before the one it is in, but for their lines: what it knows
in a feature is what it would know if the document began there (`InBlock`). So the lines of a
feature are a document with that feature alone, unless the feature needs the line that ended it
(`KeywordTable.parse_block`).
-/

namespace FeatureDocs

variable {k : KeywordTable}

/-! ### Complete features -/

/-- The features that are complete in a state of the reader, or in its verdict. -/
def completeIn : Except Reading ReaderState → List Feature
  | .ok s => s.features.reverse
  | .error r => r.features

/-- The features that are complete after some lines, with more to come. -/
def KeywordTable.completeAfter (k : KeywordTable) (ls : List Text) : List Feature :=
  completeIn (ReaderState.readSome k {} ls)

/-- How many lines there are up to the end of a feature: the most of them after which the feature
with the given number, counted from zero, is not complete. -/
def KeywordTable.endOf (k : KeywordTable) (ls : List Text) (i : Nat) : Nat :=
  Nat.findGreatest (fun n => (k.completeAfter (ls.take n)).length ≤ i) ls.length

namespace ReaderState

variable {s s' : ReaderState} {line : Text}

lemma completeIn_readFeature (n : Nat) (fs : List Feature) (line : Text) :
    completeIn (ReaderState.readFeature k ⟨n, fs, none⟩ line) = fs.reverse := by
  rcases readFeature_cases (k := k) ⟨n, fs, none⟩ line with ⟨-, h⟩ | h <;> rw [h] <;> rfl

/-- A line completes no feature, or the one that the reader is in. -/
lemma completeIn_read (k : KeywordTable) (s : ReaderState) (line : Text) :
    completeIn (s.read k line) = s.features.reverse ∨
      ∃ f p g final, s.current = some (f, p) ∧ Ends f p g final ∧ k.Matches line .feature ∧
        completeIn (s.read k line) = s.features.reverse ++ [g.close] := by
  have hmoves := moves k s line
  generalize hx : s.read k line = x at hmoves
  cases hmoves with
  | rejects hfeatures => exact .inl hfeatures
  | idle | begins | stays => exact .inl rfl
  | @ends f g p final hc _ hf hends =>
    refine .inr ⟨f, p, g, final, hc, hends, hf, ?_⟩
    rw [completeIn_readFeature, List.reverse_cons]

/-- The end completes no feature, or the one that the reader is in. -/
lemma finish_cases (s : ReaderState) :
    s.finish.features = s.features.reverse ∧ s.finish.abandoned = s.current.map (·.1.name) ∨
      ∃ f p g, s.current = some (f, p) ∧ Ends f p g true ∧ s.finish = s.endBehind g := by
  rcases hc : s.current with _ | ⟨f, p⟩
  · left
    simp [ReaderState.finish, hc]
  · cases p with
    | body => exact .inr ⟨f, _, f, rfl, .body f, by simp [ReaderState.finish, hc]⟩
    | head b => exact .inl (by simp [ReaderState.finish, hc, ReaderState.endTooEarly])
    | examples b => exact .inl (by simp [ReaderState.finish, hc, ReaderState.reject])
    | examplesTable b t =>
      exact .inr ⟨f, _, _, rfl, .examples f b t, by simp [ReaderState.finish, hc]⟩
    | step b st =>
      by_cases h : b.role = .scenario ∧ st.kind = .outcome ∧ st.attachment.Closed
      · have hends : Ends f (.step b st) (f.addBlock (b.addStep st.close)) true :=
          .scenario h.1 h.2.1 h.2.2
        exact .inr ⟨f, _, _, rfl, hends, finish_of_ends hends hc⟩
      · left
        rw [finish_of_not_ends hc h]
        simp [ReaderState.endTooEarly, hc]

/-- Features that are complete stay so. -/
lemma features_readAll (ls : List Text) (s : ReaderState) :
    ∃ new, (s.readAll k ls).features = s.features.reverse ++ new := by
  induction ls generalizing s with
  | nil =>
    rcases finish_cases s with ⟨h, -⟩ | ⟨f, p, g, -, -, h⟩
    · exact ⟨[], by rw [ReaderState.readAll, h, List.append_nil]⟩
    · exact ⟨[g.close], by rw [ReaderState.readAll, h, ReaderState.endBehind, List.reverse_cons]⟩
  | cons line rest ih =>
    have hcomplete : ∃ new, completeIn (s.read k line) = s.features.reverse ++ new := by
      rcases completeIn_read k s line with h | ⟨f, p, g, final, -, -, -, h⟩
      · exact ⟨[], by rw [h, List.append_nil]⟩
      · exact ⟨_, h⟩
    obtain ⟨new, hnew⟩ := hcomplete
    rw [ReaderState.readAll]
    cases hread : s.read k line with
    | ok s' =>
      rw [hread] at hnew
      have hfeatures : s'.features.reverse = s.features.reverse ++ new := hnew
      obtain ⟨more, hmore⟩ := ih s'
      exact ⟨new ++ more, by rw [hmore, hfeatures, List.append_assoc]⟩
    | error r =>
      rw [hread] at hnew
      exact ⟨new, hnew⟩

/-- Lines are read one stretch behind the other. -/
lemma readSome_append (s : ReaderState) (ls more : List Text) :
    s.readSome k (ls ++ more) =
      match s.readSome k ls with
      | .ok s => s.readSome k more
      | .error r => .error r := by
  induction ls generalizing s with
  | nil => rfl
  | cons line rest ih =>
    simp only [List.cons_append, ReaderState.readSome]
    cases s.read k line with
    | ok s => exact ih s
    | error r => rfl

lemma readSome_singleton (s : ReaderState) (line : Text) :
    s.readSome k [line] = s.read k line := by
  simp only [ReaderState.readSome]
  cases s.read k line <;> rfl

/-! ### The lines of the feature that is being read -/

/-- After `before ++ block` the reader is in a feature that began with the first line of `block`; and
it is where reading `block` alone leads, behind other lines and features. -/
structure InBlock (k : KeywordTable) (before block : List Text) (s : ReaderState) (f : OpenFeature)
    (p : Place) : Prop where
  current : s.current = some (f, p)
  line : f.line = before.length + 1
  ordered : Ordered s.line f p
  alone : ∃ t : ReaderState, ReaderState.readSome k {} block = .ok t ∧ t.features = [] ∧
    s = t.behind before.length s.features

/-- A block is not empty. -/
lemma InBlock.ne_nil {before block : List Text} {f : OpenFeature} {p : Place}
    (h : InBlock k before block s f p) : block ≠ [] := by
  rintro rfl
  obtain ⟨t, ht, -, hs⟩ := h.alone
  cases ht
  have hcurrent := h.current
  rw [hs] at hcurrent
  exact absurd hcurrent (by simp [ReaderState.behind])

/-- What a line does behind other lines and features, if no feature is completed. -/
lemma exists_read_of_behind {t : ReaderState} {n : Nat} {fs : List Feature}
    (h : (t.behind n fs).read k line = .ok s') (hfeatures : s'.features = fs) :
    ∃ t', t.read k line = .ok t' ∧ t'.features = [] ∧ s' = t'.behind n s'.features := by
  rw [read_behind] at h
  cases hread : t.read k line with
  | error r =>
    rw [hread] at h
    cases h
  | ok t' =>
    rw [hread] at h
    have hs' : t'.behind n fs = s' := Except.ok.inj h
    have hmap : t'.features.map (Feature.shift n) ++ fs = fs :=
      (congrArg ReaderState.features hs').trans hfeatures
    refine ⟨t', rfl, ?_, ?_⟩
    · exact List.map_eq_nil_iff.mp (List.append_left_eq_self.mp hmap)
    · rw [hfeatures, hs']

/-- The first line of a block. -/
lemma inBlock_begins {before : List Text} {fs : List Feature} {name : Text}
    (h : ReaderState.read k ⟨before.length, fs, none⟩ line =
      .ok ⟨before.length + 1, fs, some ({ name, line := before.length + 1 }, .body)⟩) :
    InBlock k before [line]
      ⟨before.length + 1, fs, some ({ name, line := before.length + 1 }, .body)⟩
      { name, line := before.length + 1 } .body where
  current := rfl
  line := rfl
  ordered := by
    refine ⟨⟨?_, ?_, ?_⟩, ?_⟩
    · simp
    · simp
    · simp
    · rintro ⟨b, hb, -⟩
      exact absurd hb (by simp [OpenFeature.close])
  alone := by
    have hbehind : (⟨before.length, fs, none⟩ : ReaderState) =
        ReaderState.behind before.length fs {} := by simp [ReaderState.behind]
    rw [hbehind] at h
    obtain ⟨t, ht, hnil, hs⟩ := exists_read_of_behind h rfl
    exact ⟨t, by rw [readSome_singleton, ht], hnil, hs⟩

/-- Another line of a block. -/
lemma InBlock.stays {before block : List Text} {f f' : OpenFeature} {p p' : Place}
    (h : InBlock k before block s f p)
    (hread : s.read k line = .ok ⟨s.line + 1, s.features, some (f', p')⟩)
    (hline : f'.line = f.line) (hordered : Ordered s.line f p → Ordered (s.line + 1) f' p') :
    InBlock k before (block ++ [line]) ⟨s.line + 1, s.features, some (f', p')⟩ f' p' where
  current := rfl
  line := hline.trans h.line
  ordered := hordered h.ordered
  alone := by
    obtain ⟨t, ht, hnil, hs⟩ := h.alone
    have hbehind : (t.behind before.length s.features).read k line =
        .ok ⟨s.line + 1, s.features, some (f', p')⟩ := by rw [← hs, hread]
    obtain ⟨t', ht', hnil', hs'⟩ := exists_read_of_behind hbehind rfl
    refine ⟨t', ?_, hnil', hs'⟩
    rw [readSome_append, ht]
    show t.readSome k [line] = .ok t'
    rw [readSome_singleton, ht']

/-- One line: in a feature the reader is in a block, if it was in one before the line. -/
lemma inBlock_of_read {ls : List Text} (hlength : s.line = ls.length)
    (hblock : ∀ f p, s.current = some (f, p) →
      ∃ before block, ls = before ++ block ∧ InBlock k before block s f p)
    (hread : s.read k line = .ok s') {f : OpenFeature} {p : Place}
    (hc' : s'.current = some (f, p)) :
    ∃ before block, ls ++ [line] = before ++ block ∧ InBlock k before block s' f p := by
  have hmoves := moves k s line
  generalize hx : s.read k line = x at hmoves
  rw [hread] at hx
  cases hmoves with
  | rejects => cases hx
  | idle =>
    cases hx
    cases hc'
  | begins hc =>
    cases hx
    cases hc'
    refine ⟨ls, [line], rfl, ?_⟩
    rcases s with ⟨n, fs, c⟩
    obtain rfl : c = none := hc
    obtain rfl : n = ls.length := hlength
    exact inBlock_begins hread
  | stays hc hline hordered =>
    cases hx
    cases hc'
    obtain ⟨before, block, rfl, h⟩ := hblock _ _ hc
    refine ⟨before, block ++ [line], List.append_assoc _ _ _, ?_⟩
    exact h.stays hread hline hordered
  | @ends _ g _ _ _ hb _ _ =>
    refine ⟨ls, [line], rfl, ?_⟩
    rw [hlength] at hx
    -- a header that ends a feature is read as outside of features, so the new block begins with it
    have houtside : ReaderState.read k ⟨ls.length, g.close :: s.features, none⟩ line =
        .ok s' := by
      rw [hx]
      simp [ReaderState.read, ReaderState.advance, hb]
    rcases readFeature_cases (k := k) ⟨ls.length + 1, g.close :: s.features, none⟩ line with
      ⟨-, hbegins⟩ | hfault
    · rw [hbegins] at hx
      cases hx
      cases hc'
      exact inBlock_begins houtside
    · rw [hfault] at hx
      cases hx

/-- Many lines: in a feature the reader is in a block. -/
lemma inBlock_of_readSome {ls : List Text} {f : OpenFeature} {p : Place}
    (h : ReaderState.readSome k {} ls = .ok s) (hc : s.current = some (f, p)) :
    ∃ before block, ls = before ++ block ∧ InBlock k before block s f p := by
  induction ls using List.reverseRecOn generalizing s f p with
  | nil =>
    cases h
    cases hc
  | append_singleton ls line ih =>
    rw [readSome_append] at h
    cases hs : ReaderState.readSome k {} ls with
    | error r =>
      rw [hs] at h
      cases h
    | ok s₁ =>
      rw [hs] at h
      have hread : s₁.read k line = .ok s := by
        rw [← readSome_singleton]
        exact h
      have hlength : s₁.line = ls.length := by
        rw [line_of_readSome hs]
        exact Nat.zero_add _
      exact inBlock_of_read hlength (fun f p hc₁ => ih hs hc₁) hread hc

end ReaderState

/-! ### Where a feature ends -/

/-- Of features that are complete after a list, the next one is the one behind them. -/
lemma eq_of_getElem?_append {fs new : List Feature} {f g : Feature} {i : Nat}
    (h : (fs ++ [g] ++ new)[i]? = some f) (hle : fs.length ≤ i) (hlt : i < (fs ++ [g]).length) :
    g = f := by
  have hi : i = fs.length := by
    rw [List.length_append, List.length_singleton] at hlt
    omega
  subst hi
  simpa using h

/-- Before the end of a feature the reader stands at a place of it where it ends. -/
structure EndsAt (k : KeywordTable) (s : ReaderState) (rest : List Text) (f : Feature)
    (g : OpenFeature) (p : Place) (final : Bool) : Prop where
  current : ∃ f₀, s.current = some (f₀, p) ∧ Ends f₀ p g final
  close : g.close = f
  next : ∀ line ∈ rest.head?, k.Matches line .feature
  final : rest = [] → final = true

/-- A feature that is not complete, but is after the next line or at the end. -/
lemma endsAt_of_features {s : ReaderState} {rest : List Text} {i : Nat} {f : Feature}
    (hf : (s.readAll k rest).features[i]? = some f) (hstop : s.features.reverse.length ≤ i)
    (hnext : ∀ line ∈ rest.head?, i < (completeIn (s.read k line)).length) :
    ∃ g p final, EndsAt k s rest f g p final := by
  cases rest with
  | nil =>
    rw [ReaderState.readAll] at hf
    have hi : i < s.finish.features.length := (List.getElem?_eq_some_iff.mp hf).1
    rcases ReaderState.finish_cases s with ⟨h, -⟩ | ⟨f₀, p, g, hc, hends, h⟩
    · rw [h] at hi
      exact absurd hstop (Nat.not_le.mpr hi)
    · have hfeatures : s.finish.features = s.features.reverse ++ [g.close] := by
        rw [h, ReaderState.endBehind, List.reverse_cons]
      rw [hfeatures] at hf hi
      rw [← List.append_nil (_ ++ _)] at hf
      exact ⟨g, p, true, ⟨f₀, hc, hends⟩, eq_of_getElem?_append hf hstop hi, by simp, fun _ => rfl⟩
  | cons line rest =>
    have hi : i < (completeIn (s.read k line)).length := hnext line rfl
    rcases ReaderState.completeIn_read k s line with h | ⟨f₀, p, g, final, hc, hends, hline, h⟩
    · rw [h] at hi
      exact absurd hstop (Nat.not_le.mpr hi)
    · -- whatever comes later is only appended to the features that are complete here
      have hfeatures : ∃ new, (s.readAll k (line :: rest)).features =
          s.features.reverse ++ [g.close] ++ new := by
        rw [ReaderState.readAll, ← h]
        cases s.read k line with
        | ok s' => exact ReaderState.features_readAll rest s'
        | error r => exact ⟨[], (List.append_nil _).symm⟩
      obtain ⟨new, hfeatures⟩ := hfeatures
      rw [h] at hi
      rw [hfeatures] at hf
      refine ⟨g, p, final, ⟨f₀, hc, hends⟩, eq_of_getElem?_append hf hstop hi, ?_, by simp⟩
      simpa using hline

lemma KeywordTable.completeAfter_append (k : KeywordTable) {ls : List Text} {s : ReaderState}
    (hs : ReaderState.readSome k {} ls = .ok s) (line : Text) :
    k.completeAfter (ls ++ [line]) = completeIn (s.read k line) := by
  rw [KeywordTable.completeAfter, ReaderState.readSome_append, hs]
  show completeIn (s.readSome k [line]) = _
  rw [ReaderState.readSome_singleton]

lemma KeywordTable.endOf_le (k : KeywordTable) (ls : List Text) (i : Nat) :
    k.endOf ls i ≤ ls.length :=
  Nat.findGreatest_le _

/-- At its end a feature is not complete. -/
lemma KeywordTable.length_completeAfter_endOf (k : KeywordTable) (ls : List Text) (i : Nat) :
    (k.completeAfter (ls.take (k.endOf ls i))).length ≤ i :=
  Nat.findGreatest_spec (P := fun n => (k.completeAfter (ls.take n)).length ≤ i)
    (Nat.zero_le _) (Nat.zero_le _)

/-- After one more line it is. -/
lemma KeywordTable.lt_length_completeAfter (k : KeywordTable) {ls : List Text} {i : Nat}
    (h : k.endOf ls i < ls.length) :
    i < (k.completeAfter (ls.take (k.endOf ls i + 1))).length :=
  Nat.lt_of_not_le (Nat.findGreatest_is_greatest
    (P := fun n => (k.completeAfter (ls.take n)).length ≤ i) (Nat.lt_succ_self _) h)

/-- Where the block of a feature ends, the machine stands in a state in which the feature can end.
-/
lemma KeywordTable.endsAt (k : KeywordTable) {ls : List Text} {i : Nat} {f : Feature}
    (hf : (k.read ls).features[i]? = some f) :
    ∃ s g p final, ReaderState.readSome k {} (ls.take (k.endOf ls i)) = .ok s ∧
      EndsAt k s (ls.drop (k.endOf ls i)) f g p final := by
  have hstop := k.length_completeAfter_endOf ls i
  have hread := k.read_append (ls.take (k.endOf ls i)) (ls.drop (k.endOf ls i))
  rw [List.take_append_drop] at hread
  rw [KeywordTable.completeAfter] at hstop
  cases hs : ReaderState.readSome k {} (ls.take (k.endOf ls i)) with
  | error r =>
    rw [hs] at hread hstop
    have hr : k.read ls = r := hread
    have hi : i < (k.read ls).features.length := (List.getElem?_eq_some_iff.mp hf).1
    rw [hr] at hi
    exact absurd hstop (Nat.not_le.mpr hi)
  | ok s =>
    rw [hs] at hread hstop
    have hread : k.read ls = s.readAll k (ls.drop (k.endOf ls i)) := hread
    rw [hread] at hf
    -- the block ends just before the line with which its feature is complete
    have hnext : ∀ line ∈ (ls.drop (k.endOf ls i)).head?,
        i < (completeIn (s.read k line)).length := by
      intro line hline
      obtain ⟨rest, hrest⟩ := List.head?_eq_some_iff.mp hline
      have hlt : k.endOf ls i < ls.length := by
        by_contra hge
        rw [List.drop_eq_nil_of_le (Nat.le_of_not_lt hge)] at hrest
        exact absurd hrest (by simp)
      have htake : ls.take (k.endOf ls i + 1) = ls.take (k.endOf ls i) ++ [line] := by
        rw [List.take_add, hrest]
        rfl
      have hmore := k.lt_length_completeAfter hlt
      rwa [htake, k.completeAfter_append hs] at hmore
    obtain ⟨g, p, final, h⟩ := endsAt_of_features hf hstop hnext
    exact ⟨s, g, p, final, rfl, h⟩

/-! ### The lines of a feature -/

/-- What the lines of a feature are when they are read alone. -/
structure ReadAlone (k : KeywordTable) (before block rest : List Text) (f : Feature) : Prop where
  ne_nil : block ≠ []
  line : f.line = before.length + 1
  next : ∀ line ∈ rest.head?, k.Matches line .feature
  rejected : rest ≠ [] → f.EndsInBackground → (k.read block).rejection = some .endOfInput
  accepted : ¬ (rest ≠ [] ∧ f.EndsInBackground) →
    ∃ f', k.read block = { features := [f'] } ∧ f'.shift before.length = f

/-- The end of a block that may end the document. -/
lemma finish_of_behind {t s : ReaderState} {n : Nat} {g : OpenFeature}
    (hs : s = t.behind n s.features) (hfinish : s.finish = s.endBehind g) :
    ∃ f', t.finish = { features := [f'] } ∧ f'.shift n = g.close := by
  have hbehind : t.finish.behind n s.features = s.endBehind g := by
    rw [← hfinish, ← ReaderState.finish_behind, ← hs]
  have hfeatures : s.features.reverse ++ t.finish.features.map (Feature.shift n) =
      s.features.reverse ++ [g.close] :=
    (congrArg Reading.features hbehind).trans (List.reverse_cons)
  have habandoned : t.finish.abandoned = none := congrArg Reading.abandoned hbehind
  have hrejection : t.finish.rejection.map (Rejection.shift n) = none :=
    congrArg Reading.rejection hbehind
  obtain ⟨f', hf', hshift⟩ := List.map_eq_singleton_iff.mp (List.append_cancel_left hfeatures)
  refine ⟨f', ?_, hshift⟩
  rw [Option.map_eq_none_iff] at hrejection
  cases hfin : t.finish with
  | mk features abandoned rejection =>
    rw [hfin] at hf' habandoned hrejection
    subst hf' habandoned hrejection
    rfl

/-- The block of a feature is read from an empty machine as it was in the document. -/
lemma KeywordTable.readAlone (k : KeywordTable) {ls : List Text} {i : Nat} {f : Feature}
    (hf : (k.read ls).features[i]? = some f) :
    ∃ before block, ls.take (k.endOf ls i) = before ++ block ∧
      ReadAlone k before block (ls.drop (k.endOf ls i)) f := by
  obtain ⟨s, g, p, final, hrun, h⟩ := k.endsAt hf
  obtain ⟨f₀, hc, hends⟩ := h.current
  obtain ⟨before, block, hls, hblock⟩ := ReaderState.inBlock_of_readSome hrun hc
  obtain ⟨t, ht, -, hs⟩ := hblock.alone
  have hread : k.read block = t.finish := by
    have hread := k.read_append block []
    rw [List.append_nil, ht] at hread
    exact hread
  have hbackground : f.EndsInBackground ↔ final = false := by
    rw [← h.close]
    exact hends.endsInBackground_iff hblock.ordered
  refine ⟨before, block, hls, hblock.ne_nil, ?_, h.next, ?_, ?_⟩
  · have hline : (f.line : Int) = g.line := by rw [← h.close]; rfl
    rw [hline, hends.line, hblock.line]
    rfl
  · intro _ hf
    obtain rfl := hbackground.mp hf
    -- in the document the input ends too early here, and moving the block away keeps that
    have hfinish : (t.finish.behind before.length s.features).rejection = some .endOfInput := by
      rw [← ReaderState.finish_behind, ← hs, ReaderState.finish_of_ends_background hends hc]
      rfl
    rw [hread]
    cases hrejection : t.finish.rejection with
    | none => simp [Reading.behind, hrejection] at hfinish
    | some r =>
      cases r with
      | fault fault line => simp [Reading.behind, Rejection.shift, hrejection] at hfinish
      | endOfInput => rfl
  · intro hnot
    have hfinal : final = true := by
      cases final with
      | true => rfl
      | false =>
        refine absurd ⟨fun hrest => ?_, hbackground.mpr rfl⟩ hnot
        exact absurd (h.final hrest) (by simp)
    subst hfinal
    obtain ⟨f', hfinish, hshift⟩ := finish_of_behind hs (ReaderState.finish_of_ends hends hc)
    exact ⟨f', hread.trans hfinish, hshift.trans h.close⟩

lemma Source.toLines_block (ls : List Text) (start stop : Nat) :
    (Source.lines ((ls.take stop).drop start)).toLines =
      ((Source.lines ls).toLines.take stop).drop start := by
  simp only [Source.toLines, List.map_drop, List.map_take]

/-- A feature of an outcome was read, and what was found for it depends on its name. -/
lemma KeywordTable.exists_read_of_parse {find : Option (Text → Lookup)} {document : Source}
    {source : Text} {i : Nat} {f : Feature}
    (h : (k.parse (find.map Resolver.ofName) document source).outcome.features[i]? = some f) :
    ∃ f₁, (k.read document.toLines).features[i]? = some f₁ ∧
      f₁.bind source (lookupAt (find.map Resolver.ofName) 0 f₁.name) = f := by
  have hget : ((k.read document.toLines).features.mapIdx fun j f =>
      f.bind source (lookupAt (find.map Resolver.ofName) j f.name))[i]? = some f := h
  rw [List.getElem?_mapIdx, Option.map_eq_some_iff] at hget
  obtain ⟨f₁, hf₁, hf⟩ := hget
  refine ⟨f₁, hf₁, ?_⟩
  rw [← hf]
  cases find <;> rfl

/-- The lines of a feature, up to the line that begins like the next one or the end, are a document
with that feature alone, on the lines where it stands then. Only a feature that ends in its
background and is not the end of its document is rejected, for the line that follows is missing. -/
theorem KeywordTable.parse_block (k : KeywordTable) (find : Option (Text → Lookup)) (source : Text)
    (ls : List Text)
    (i : Fin (k.parse (find.map Resolver.ofName) (.lines ls) source).outcome.features.length) :
    let f := (k.parse (find.map Resolver.ofName) (.lines ls) source).outcome.features.get i
    let stop := k.endOf (Source.lines ls).toLines i
    let block := (ls.take stop).drop (f.line.toNat - 1)
    let alone := (k.parse (find.map Resolver.ofName) (.lines block) source).outcome
    (1 ≤ f.line ∧ f.line ≤ stop) ∧
      (∀ line ∈ ((Source.lines ls).toLines.drop stop).head?, k.Matches line .feature) ∧
      (stop < ls.length ∧ f.EndsInBackground → alone.rejection = some .endOfInput) ∧
      (¬ (stop < ls.length ∧ f.EndsInBackground) →
        alone.ok ∧ ∃ f', alone.features = [f'] ∧ f'.shift (f.line.toNat - 1) = f) := by
  intro f stop block alone
  have hget : (k.parse (find.map Resolver.ofName) (.lines ls) source).outcome.features[i.val]? =
      some f := List.getElem?_eq_getElem i.isLt
  obtain ⟨f₁, hf₁, hf⟩ := exists_read_of_parse hget
  obtain ⟨before, block', hls, h⟩ := k.readAlone hf₁
  have hline : f.line = before.length + 1 := by rw [← hf, ← h.line]; rfl
  -- the block was read alone from its first line on, so the cut is put in its terms
  have hstart : f.line.toNat - 1 = before.length := by omega
  have hlength : (Source.lines ls).toLines.length = ls.length := List.length_map _
  have hstop : stop = before.length + block'.length := by
    have hle : stop ≤ (Source.lines ls).toLines.length := k.endOf_le _ _
    rw [← List.length_append, ← hls, List.length_take, Nat.min_eq_left hle]
  have hblock : (Source.lines block).toLines = block' := by
    rw [Source.toLines_block, hstart, hls, List.drop_left]
  have hrest : stop < ls.length ↔ (Source.lines ls).toLines.drop stop ≠ [] := by
    rw [ne_eq, List.drop_eq_nil_iff, hlength, Nat.not_le]
  have hbackground : f.EndsInBackground ↔ f₁.EndsInBackground := by
    rw [← hf]
    exact Iff.rfl
  have hpos : 0 < block'.length := List.length_pos_iff.mpr h.ne_nil
  have halone : alone = ((k.read block').parsing (find.map Resolver.ofName) source).outcome := by
    rw [← hblock]
    rfl
  rw [halone, hstart, hrest, hbackground]
  refine ⟨⟨by omega, by omega⟩, h.next, ?_, ?_⟩
  · rintro ⟨hne, hends⟩
    exact h.rejected hne hends
  · intro hnot
    obtain ⟨f', hread, hshift⟩ := h.accepted hnot
    have hname : f'.name = f₁.name := by rw [← hshift]; rfl
    rw [hread]
    refine ⟨rfl, _, rfl, ?_⟩
    rw [← hf, ← hshift]
    rfl

/-- A background needs the line that ends its feature, so without it the document is not accepted. -/
example :
    let k := KeywordTable.ofEntry "en" Dataset.english
    k.endOf ["Feature: A", "Background:", "Given b", "Feature: C"] 0 = 3 ∧
      (k.read ["Feature: A", "Background:", "Given b"]).rejection = some .endOfInput :=
  ⟨by decide +kernel, rfl⟩

end FeatureDocs
