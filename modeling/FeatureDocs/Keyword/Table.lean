import FeatureDocs.Keyword.Dataset
import FeatureDocs.Text.Case

/-!
# Keyword tables

The keywords of one language. A line begins with a keyword when its text, cut to the length of the
keyword, has the same lower form; the first such keyword of a category counts.
-/

namespace FeatureDocs

/-- The keywords of one language. -/
structure KeywordTable where
  language : Text
  candidates : Category → List Text

namespace KeywordTable

/-- No table has the language code. -/
structure UnknownLanguage where
  language : Text
  available : List Text

/-- The codes that are there, as the error lists them. A list that shows nothing is called none,
also if it holds the code without characters. -/
def UnknownLanguage.listing (e : UnknownLanguage) : Text :=
  let codes := Text.join ", " e.available
  if codes.isEmpty then "none" else codes

/-- The wording of the error. -/
def UnknownLanguage.message (e : UnknownLanguage) : Text :=
  "Unknown language code '" ++ e.language ++ "' (available: " ++ e.listing ++ ")"

/-- The table of a language whose prefixes are given. -/
def ofEntry (language : Text) (entry : LanguageEntry) : KeywordTable :=
  ⟨language, fun c => (Mapping.get? entry c).getD []⟩

/-- The table of a language in a dataset. -/
def select (d : Dataset) (language : Text) : Except UnknownLanguage KeywordTable :=
  match d.entry? language with
  | some entry => .ok (ofEntry language entry)
  | none => .error ⟨language, d.codes⟩

/-- A table that was selected is that of an entry of the dataset. -/
theorem exists_entry_of_select {d : Dataset} {language : Text} {k : KeywordTable}
    (h : select d language = .ok k) : ∃ e ∈ d.languages, k = ofEntry e.1 e.2 := by
  simp only [select] at h
  cases hentry : d.entry? language with
  | none =>
    rw [hentry] at h
    cases h
  | some entry =>
    rw [hentry] at h
    cases h
    obtain ⟨before, behind, hlanguages, -⟩ := List.lookup_eq_some_iff.mp hentry
    exact ⟨(language, entry), by simp [hlanguages], rfl⟩

variable (k : KeywordTable)

/-- Whether a text begins with a keyword, whatever the case of either. -/
def beginsWith (keyword text : Text) : Bool :=
  Text.lower (text.take keyword.length) == Text.lower keyword

/-- The keyword of a category that a line begins with. -/
def match? (line : Text) (c : Category) : Option Text :=
  (k.candidates c).find? fun keyword => beginsWith keyword (Text.trimStart line)

/-- Whether a line begins with a keyword of a category. -/
def Matches (line : Text) (c : Category) : Prop := (k.match? line c).isSome

instance (line : Text) (c : Category) : Decidable (k.Matches line c) :=
  inferInstanceAs (Decidable (_ = true))

/-- What stands behind the keyword of a category, trimmed; nothing if there is none. -/
def strip (line : Text) (c : Category) : Text :=
  match k.match? line c with
  | some keyword => Text.trim ((Text.trimStart line).drop keyword.length)
  | none => []

end KeywordTable

end FeatureDocs
