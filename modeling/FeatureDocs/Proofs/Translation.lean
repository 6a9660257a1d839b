import FeatureDocs.Document.Outcome
import FeatureDocs.Proofs.Arrivals
import FeatureDocs.Proofs.Keywords

/-!
# Documents in two languages

A document may be written in any of the packaged languages: what is read of it depends on the
categories of its keywords and on the texts behind them, and not on the keywords
(`KeywordTable.parse_translation`). Cells, names, the texts of steps and the lines of doc strings
may begin with keywords of either language. Only the description of a feature takes lines as they
are, so there are no doc strings in it, and no keywords but those that end it (`Item.Tidy`).
-/

namespace FeatureDocs

/-! ### Documents without keywords -/

/-- A part of a document, with keywords left open. -/
inductive Item
  /-- A line that begins with a keyword of a category, with a text behind it. -/
  | keyword (c : Category) (text : Text)
  /-- A line that is no row and no marker, and has to begin with no keyword where it is written. -/
  | plain (line : Text) (hrow : ¬ DataTable.isRow line) (hmarker : Text.trim line ≠ docStringMarker)
  /-- A row of a table. -/
  | row (line : Text) (h : DataTable.isRow line)
  /-- A blank line. -/
  | blank (line : Text) (h : Text.isBlank line)
  /-- A doc string from marker to marker. -/
  | docString (opening : Text) (body : List Text) (closing : Text)
      (hopening : Text.trim opening = docStringMarker)
      (hbody : ∀ line ∈ body, Text.trim line ≠ docStringMarker)
      (hclosing : Text.trim closing = docStringMarker)

/-- The category is that of a line that may end a description: of a feature or of a block. -/
def Category.Opens (c : Category) : Prop :=
  c = .feature ∨ c = .background ∨ c = .outline ∨ c = .scenario

instance (c : Category) : Decidable c.Opens :=
  inferInstanceAs (Decidable (_ ∨ _ ∨ _ ∨ _))

/-- From a line that begins a feature up to the next line that begins a feature or a block, there
are no other keywords and no doc strings. The flag says whether the items stand behind such a line,
with none of the others between. -/
def Item.Tidy : Bool → List Item → Prop
  | _, [] => True
  | describing, .keyword c _ :: rest =>
    (describing → c.Opens) ∧ Item.Tidy (c = .feature) rest
  | describing, .docString .. :: rest => describing = false ∧ Item.Tidy describing rest
  | describing, .plain .. :: rest => Item.Tidy describing rest
  | describing, .row .. :: rest => Item.Tidy describing rest
  | describing, .blank .. :: rest => Item.Tidy describing rest

/-- The line begins with a keyword of the category, and the text stands behind it. -/
structure KeywordTable.Says (k : KeywordTable) (line : Text) (c : Category) (text : Text) :
    Prop where
  trimmed : k.Matches (Text.trim line) c
  strip : k.strip (Text.trim line) c = text

instance (k : KeywordTable) (line : Text) (c : Category) (text : Text) :
    Decidable (k.Says line c text) :=
  decidable_of_iff (_ ∧ _) ⟨fun ⟨h₁, h₂⟩ => ⟨h₁, h₂⟩, fun ⟨h₁, h₂⟩ => ⟨h₁, h₂⟩⟩

/-- The items, written with keywords of a language. -/
inductive KeywordTable.Writes (k : KeywordTable) : List Item → List Text → Prop
  | nil : k.Writes [] []
  | keyword {c : Category} {text line : Text} {items : List Item} {ls : List Text}
      (hline : k.Says line c text) (hrest : k.Writes items ls) :
      k.Writes (.keyword c text :: items) (line :: ls)
  | plain {line : Text} {hrow : ¬ DataTable.isRow line} {hmarker : Text.trim line ≠ docStringMarker}
      {items : List Item} {ls : List Text} (hline : ∀ c, ¬ k.Matches line c)
      (hrest : k.Writes items ls) : k.Writes (.plain line hrow hmarker :: items) (line :: ls)
  | row {line : Text} {h : DataTable.isRow line} {items : List Item} {ls : List Text}
      (hrest : k.Writes items ls) : k.Writes (.row line h :: items) (line :: ls)
  | blank {line : Text} {h : Text.isBlank line} {items : List Item} {ls : List Text}
      (hrest : k.Writes items ls) : k.Writes (.blank line h :: items) (line :: ls)
  | docString {opening closing : Text} {body : List Text}
      {hopening : Text.trim opening = docStringMarker}
      {hbody : ∀ line ∈ body, Text.trim line ≠ docStringMarker}
      {hclosing : Text.trim closing = docStringMarker} {items : List Item} {ls : List Text}
      (hrest : k.Writes items ls) :
      k.Writes (.docString opening body closing hopening hbody hclosing :: items)
        (opening :: (body ++ closing :: ls))

/-! ### Lines that say the same -/

variable {k k' : KeywordTable} {line line' text : Text} {c c' : Category}

lemma KeywordTable.strip_of_not_matches (h : ¬ k.Matches line c) : k.strip line c = [] := by
  rw [Matches, Option.not_isSome_iff_eq_none] at h
  rw [strip, h]

/-- A line that begins with no keyword of either language looks the same in both. -/
lemma alike_of_unclaimed (hk : k.Distinct) (hk' : k'.Distinct) (h : ∀ c, ¬ k.Matches line c)
    (h' : ∀ c, ¬ k'.Matches line c) : Alike k k' line line := by
  have ht : ∀ c, ¬ k.Matches (Text.trim line) c := fun c hc => h c (hk.matches_of_trim hc)
  have ht' : ∀ c, ¬ k'.Matches (Text.trim line) c := fun c hc => h' c (hk'.matches_of_trim hc)
  exact
    { blank := rfl
      row := rfl
      cells := fun _ => rfl
      marker := Iff.rfl
      feature := iff_of_false (h _) (h' _)
      trimmed := fun c => iff_of_false (ht c) (ht' c)
      strip := fun c => by
        rw [KeywordTable.strip_of_not_matches (ht c), KeywordTable.strip_of_not_matches (ht' c)] }

namespace KeywordTable

namespace Says

variable (hk : k.Distinct) (h : k.Says line c text)
include hk h

lemma matches_iff : k.Matches line c' ↔ c' = c := by
  have hline := hk.matches_of_trim h.trimmed
  refine ⟨fun hc' => hk.eq_of_matches hc' hline, ?_⟩
  rintro rfl
  exact hline

lemma matches_trim_iff : k.Matches (Text.trim line) c' ↔ c' = c := by
  refine ⟨fun hc' => hk.eq_of_matches hc' h.trimmed, ?_⟩
  rintro rfl
  exact h.trimmed

lemma opens_iff : k.Opens line ↔ c.Opens := by
  simp only [Opens, h.matches_iff hk, h.matches_trim_iff hk, Category.Opens, eq_comm]

lemma strip_eq (c' : Category) : k.strip (Text.trim line) c' = if c' = c then text else [] := by
  split_ifs with hc
  · rw [hc, h.strip]
  · exact strip_of_not_matches fun hc' => hc ((h.matches_trim_iff hk).mp hc')

end Says

/-- Two lines that say the same look the same, each in its language. -/
lemma Says.alike (hk : k.Distinct) (hk' : k'.Distinct) (h : k.Says line c text)
    (h' : k'.Says line' c text) : Alike k k' line line' := by
  have hline := hk.matches_of_trim h.trimmed
  have hline' := hk'.matches_of_trim h'.trimmed
  have hrow := hk.not_isRow_of_matches hline
  exact
    { blank := by
        rw [Bool.eq_iff_iff]
        exact iff_of_false (hk.not_isBlank_of_matches hline) (hk'.not_isBlank_of_matches hline')
      row := by
        rw [Bool.eq_iff_iff]
        exact iff_of_false hrow (hk'.not_isRow_of_matches hline')
      cells := fun hr => absurd hr hrow
      marker := iff_of_false (hk.trim_ne_of_matches hline) (hk'.trim_ne_of_matches hline')
      feature := (h.matches_iff hk).trans (h'.matches_iff hk').symm
      trimmed := fun c' => (h.matches_trim_iff hk).trans (h'.matches_trim_iff hk').symm
      strip := fun c' => (h.strip_eq hk c').trans (h'.strip_eq hk' c').symm }

end KeywordTable

/-! ### Reading both -/

namespace ReaderState

variable {s : ReaderState} {rest rest' : List Text}

/-- A line that does the same in both languages, and the lines below it. -/
lemma readAll_cons_congr (hread : s.read k line = s.read k' line')
    (hrest : ∀ s', s.read k line = .ok s' → s'.readAll k rest = s'.readAll k' rest') :
    s.readAll k (line :: rest) = s.readAll k' (line' :: rest') := by
  rw [ReaderState.readAll, ReaderState.readAll, ← hread]
  cases h : s.read k line with
  | ok s' => exact hrest s' h
  | error r => rfl

/-- The lines of a doc string that is open, and its marker. -/
lemma readAll_docString {body : List Text} {closing : Text} (hin : s.inDocString)
    (hbody : ∀ line ∈ body, Text.trim line ≠ docStringMarker)
    (hclosing : Text.trim closing = docStringMarker)
    (hrest : ∀ s' : ReaderState, s'.inDocString = false → ¬ s'.Describing →
      s'.readAll k rest = s'.readAll k' rest') :
    s.readAll k (body ++ closing :: rest) = s.readAll k' (body ++ closing :: rest') := by
  induction body generalizing s with
  | nil =>
    obtain ⟨hread, hnext⟩ := read_inDocString hin k k' closing
    refine readAll_cons_congr hread fun s' hs' => ?_
    obtain ⟨hd, hmarker⟩ := hnext s' hs'
    exact hrest s' (hmarker.mpr hclosing) hd
  | cons line body ih =>
    obtain ⟨hread, hnext⟩ := read_inDocString hin k k' line
    refine readAll_cons_congr hread fun s' hs' => ?_
    obtain ⟨-, hmarker⟩ := hnext s' hs'
    have hin' : s'.inDocString := by simpa using mt hmarker.mp (hbody line List.mem_cons_self)
    exact ih hin' fun l hl => hbody l (List.mem_cons_of_mem _ hl)

/-- A line that looks the same in both languages, outside of doc strings, and the lines below it. -/
lemma readAll_alike (halike : Alike k k' line line')
    (hconj : k.Matches line .conjunction ↔ k'.Matches line' .conjunction)
    (htext : s.Describing → ¬ k.Opens line → Text.trim line = Text.trim line')
    (hin : s.inDocString = false) (hmarker : Text.trim line ≠ docStringMarker)
    (hrest : ∀ s', s.read k line = .ok s' → s'.inDocString = false →
      s'.readAll k rest = s'.readAll k' rest') :
    s.readAll k (line :: rest) = s.readAll k' (line' :: rest') := by
  have hread : s.read k line = s.read k' line' := by
    refine s.read_alike halike (fun _ => hconj) htext fun hquotes => ?_
    rcases inDocString_or_marker_of_quotes hquotes with h | h
    · rw [hin] at h
      cases h
    · exact absurd h hmarker
  exact readAll_cons_congr hread fun s' hs' => hrest s' hs' (inDocString_of_read hs' hin hmarker)

/-- A line that begins with no keyword of either language and is no marker, outside of doc strings,
and the lines below it. -/
lemma readAll_unclaimed (hk : k.Distinct) (hk' : k'.Distinct) (h : ∀ c, ¬ k.Matches line c)
    (h' : ∀ c, ¬ k'.Matches line c) (hin : s.inDocString = false)
    (hmarker : Text.trim line ≠ docStringMarker)
    (hrest : ∀ s' : ReaderState, s'.inDocString = false → (s'.Describing → s.Describing) →
      s'.readAll k rest = s'.readAll k' rest') :
    s.readAll k (line :: rest) = s.readAll k' (line :: rest') := by
  refine readAll_alike (alike_of_unclaimed hk hk' h h') (iff_of_false (h _) (h' _)) (fun _ _ => rfl)
    hin hmarker fun s' hs' hin' => hrest s' hin' fun hd => ?_
  rcases describing_of_read hs' hd with hf | ⟨hd, -⟩
  · exact absurd (hk.matches_of_trim hf) (h _)
  · exact hd

/-- The line that opens a doc string, or is rejected, and the lines below it. -/
lemma readAll_opening (hk : k.Distinct) (hk' : k'.Distinct)
    (hmarker : Text.trim line = docStringMarker) (hin : s.inDocString = false)
    (hd : ¬ s.Describing)
    (hrest : ∀ s' : ReaderState, s'.inDocString → s'.readAll k rest = s'.readAll k' rest') :
    s.readAll k (line :: rest) = s.readAll k' (line :: rest') := by
  have h : ∀ c, ¬ k.Matches line c := fun c hc => hk.trim_ne_of_matches hc hmarker
  have h' : ∀ c, ¬ k'.Matches line c := fun c hc => hk'.trim_ne_of_matches hc hmarker
  have hread : s.read k line = s.read k' line :=
    s.read_alike (alike_of_unclaimed hk hk' h h') (fun _ => iff_of_false (h _) (h' _))
      (fun _ _ => rfl) fun _ => rfl
  refine readAll_cons_congr hread fun s' hs' => hrest s' ?_
  exact inDocString_of_marker hs' hin hmarker (fun c hc => h c (hk.matches_of_trim hc)) hd

/-- A line that says the same in both languages, and the lines below it. -/
lemma readAll_says (hk : k.Distinct) (hk' : k'.Distinct) (h : k.Says line c text)
    (h' : k'.Says line' c text) (hin : s.inDocString = false) (hd : s.Describing → c.Opens)
    (hrest : ∀ s' : ReaderState, s'.inDocString = false → (s'.Describing → c = .feature) →
      s'.readAll k rest = s'.readAll k' rest') :
    s.readAll k (line :: rest) = s.readAll k' (line' :: rest') := by
  have hline := hk.matches_of_trim h.trimmed
  refine readAll_alike (h.alike hk hk' h') ((h.matches_iff hk).trans (h'.matches_iff hk').symm) ?_
    hin (hk.trim_ne_of_matches hline) fun s' hs' hin' => hrest s' hin' fun hd' => ?_
  · intro hs hopens
    exact absurd ((h.opens_iff hk).mpr (hd hs)) hopens
  · rcases describing_of_read hs' hd' with hf | ⟨hs, hb | hopens⟩
    · exact ((h.matches_trim_iff hk).mp hf).symm
    · exact absurd hb (hk.not_isBlank_of_matches hline)
    · exact absurd ((h.opens_iff hk).mpr (hd hs)) hopens

/-- Items that are written in two languages are read alike. -/
lemma readAll_writes (hk : k.Distinct) (hk' : k'.Distinct) {items : List Item} {ls ls' : List Text}
    {describing : Bool} (h : k.Writes items ls) (h' : k'.Writes items ls')
    (htidy : Item.Tidy describing items) (hin : s.inDocString = false)
    (hd : s.Describing → describing) : s.readAll k ls = s.readAll k' ls' := by
  -- item by item of the first document; the state is the same in both, and outside of doc strings
  induction h generalizing s describing ls' with
  | nil =>
    cases h'
    rfl
  | keyword hline hrest ih =>
    cases h' with
    | keyword hline' hrest' =>
      obtain ⟨hopens, htidy⟩ := htidy
      refine readAll_says hk hk' hline hline' hin (fun hs => hopens (hd hs)) fun s' hin' hd' => ?_
      exact ih hrest' htidy hin' (by simpa using hd')
  | @plain line hrow hmarker items ls hline hrest ih =>
    cases h' with
    | plain hline' hrest' =>
      refine readAll_unclaimed hk hk' hline hline' hin hmarker fun s' hin' hd' => ?_
      exact ih hrest' htidy hin' (hd ∘ hd')
  | @row line hrow items ls hrest ih =>
    cases h' with
    | row hrest' =>
      have hline : ∀ c, ¬ k.Matches line c := fun c hc => hk.not_isRow_of_matches hc hrow
      have hline' : ∀ c, ¬ k'.Matches line c := fun c hc => hk'.not_isRow_of_matches hc hrow
      have hmarker : Text.trim line ≠ docStringMarker :=
        fun hm => not_isRow_of_trim_eq_marker hm hrow
      refine readAll_unclaimed hk hk' hline hline' hin hmarker fun s' hin' hd' => ?_
      exact ih hrest' htidy hin' (hd ∘ hd')
  | @blank line hb items ls hrest ih =>
    cases h' with
    | blank hrest' =>
      have hline : ∀ c, ¬ k.Matches line c := fun c hc => hk.not_isBlank_of_matches hc hb
      have hline' : ∀ c, ¬ k'.Matches line c := fun c hc => hk'.not_isBlank_of_matches hc hb
      have hmarker : Text.trim line ≠ docStringMarker :=
        fun hm => not_isBlank_of_trim_eq_marker hm hb
      refine readAll_unclaimed hk hk' hline hline' hin hmarker fun s' hin' hd' => ?_
      exact ih hrest' htidy hin' (hd ∘ hd')
  | @docString opening closing body hopening hbody hclosing items ls hrest ih =>
    cases h' with
    | docString hrest' =>
      -- in no description, the marker opens a doc string or is rejected
      obtain ⟨rfl, htidy⟩ := htidy
      have hs : ¬ s.Describing := fun hs => absurd (hd hs) (by simp)
      refine readAll_opening hk hk' hopening hin hs fun s₁ hin₁ => ?_
      refine readAll_docString hin₁ hbody hclosing fun s₂ hin₂ hd₂ => ?_
      exact ih hrest' htidy hin₂ fun hs₂ => absurd hs₂ hd₂

end ReaderState

/-- The same items in two of the packaged languages: the same features with the same lines and
texts, and the same rejection if there is one. -/
theorem KeywordTable.parse_translation (language language' : Text) (k k' : KeywordTable)
    (hk : select Dataset.packaged language = .ok k)
    (hk' : select Dataset.packaged language' = .ok k') (resolver : Option Resolver) (source : Text)
    (items : List Item) (htidy : Item.Tidy false items) (document document' : Source)
    (hwrites : k.Writes items document.toLines) (hwrites' : k'.Writes items document'.toLines) :
    k.parse resolver document source = k'.parse resolver document' source := by
  have hread : k.read document.toLines = k'.read document'.toLines := by
    refine ReaderState.readAll_writes (distinct_of_select hk) (distinct_of_select hk') hwrites
      hwrites' htidy rfl ?_
    rintro ⟨f, hc, -⟩
    cases hc
  rw [parse, parse, hread]

/-- English and German, with keywords of both languages in a name, in cells and in a doc string, and
with a second feature that is rejected. -/
theorem KeywordTable.parse_translation_german :
    let k := ofEntry "en" Dataset.english
    let k' := ofEntry "de" Dataset.german
    let document : Source := .lines
      ["Business Need: a", "Weder noch", "", "Example: Given", "Given b", "| Wenn | Given |",
        " \"\"\"", " Feature: c", " Und", " \"\"\"", "  BUT d", "When e", "Then f",
        "Feature: g", "Scenario: h", "Then i"]
    let document' : Source := .lines
      ["Funktion: a", "Weder noch", "", "Szenario: Given", "Gegeben sei b", "| Wenn | Given |",
        " \"\"\"", " Feature: c", " Und", " \"\"\"", "Und d", "Wenn e", "Dann f",
        "Funktion: g", "Beispiel: h", "dann i"]
    let outcome := (k.parse none document []).outcome
    select Dataset.packaged "en" = .ok k ∧ select Dataset.packaged "de" = .ok k' ∧
      (∃ items, Item.Tidy false items ∧ k.Writes items document.toLines ∧
        k'.Writes items document'.toLines) ∧
      outcome.features.map (·.name) = (["a"] : List Text) ∧
      outcome.rejection.map (·.message) = some ("Expected a Given step at line 16" : Text) ∧
      k.parse none document [] = k'.parse none document' [] := by
  intro k k' document document' outcome
  have hselect : select Dataset.packaged "en" = .ok k := by rfl
  have hselect' : select Dataset.packaged "de" = .ok k' := by rfl
  have hopening : Text.trim " \"\"\"" = docStringMarker := by decide
  let items : List Item :=
    [.keyword .feature "a", .plain "Weder noch" (by decide) (by decide), .blank "" (by decide),
      .keyword .scenario "Given", .keyword .context "b", .row "| Wenn | Given |" (by decide),
      .docString " \"\"\"" [" Feature: c", " Und"] " \"\"\"" hopening (by decide) hopening,
      .keyword .conjunction "d", .keyword .action "e", .keyword .outcome "f",
      .keyword .feature "g", .keyword .scenario "h", .keyword .outcome "i"]
  have htidy : Item.Tidy false items := by simp [items, Item.Tidy, Category.Opens]
  have hwrites : k.Writes items document.toLines := by
    refine .keyword ?_ (.plain ?_ (.blank (.keyword ?_ (.keyword ?_ (.row (.docString
      (.keyword ?_ (.keyword ?_ (.keyword ?_ (.keyword ?_ (.keyword ?_ (.keyword ?_ .nil))))))))))))
    all_goals decide +kernel
  have hwrites' : k'.Writes items document'.toLines := by
    refine .keyword ?_ (.plain ?_ (.blank (.keyword ?_ (.keyword ?_ (.row (.docString
      (.keyword ?_ (.keyword ?_ (.keyword ?_ (.keyword ?_ (.keyword ?_ (.keyword ?_ .nil))))))))))))
    all_goals decide +kernel
  refine ⟨hselect, hselect', ⟨items, htidy, hwrites, hwrites'⟩, by decide +kernel,
    by decide +kernel, ?_⟩
  exact parse_translation "en" "de" k k' hselect hselect' none [] items htidy document document'
    hwrites hwrites'

end FeatureDocs
