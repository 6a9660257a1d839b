import FeatureDocs.Document.Outcome
import FeatureDocs.Keyword.Packaged
import FeatureDocs.Proofs.Moves
import FeatureDocs.Proofs.Shift

/-!
# Documents one behind the other

Behind a document that is accepted the reader may as well be outside of all features, if the first
line that follows begins one (`ReaderState.readAll_of_finish`). Read together, the two documents
therefore give what they give apart, the second one shifted by the lines of the first
(`KeywordTable.parse_append`).
-/

namespace FeatureDocs

variable {k : KeywordTable}

namespace ReaderState

variable {s : ReaderState} {f g : OpenFeature} {p : Place}

/-! ### Behind an accepted document -/

/-- Where a feature can end, the rest is read as if it had ended, unless the rest goes on with it.
-/
lemma readAll_of_ends {ls : List Text} (hends : Ends f p g true) (hc : s.current = some (f, p))
    (hbegins : ∀ line, ls.find? (!Text.isBlank ·) = some line → BeginsFeature k line) :
    s.readAll k ls =
      ReaderState.readAll k { line := s.line, features := g.close :: s.features } ls := by
  induction ls generalizing s f p with
  | nil =>
    rw [ReaderState.readAll, ReaderState.readAll, finish_of_ends hends hc]
    rfl
  | cons line rest ih =>
    rw [ReaderState.readAll, ReaderState.readAll]
    by_cases hb : Text.isBlank line
    · -- a blank line may close a table, but the feature can still end behind it
      obtain ⟨f', p', hread, hends'⟩ := read_blank_of_ends (k := k) hends hc hb
      have hrest : ∀ l, rest.find? (!Text.isBlank ·) = some l → BeginsFeature k l := by
        intro l hl
        exact hbegins l (by simpa [hb] using hl)
      have hblank : ReaderState.read k { line := s.line, features := g.close :: s.features } line =
          .ok { line := s.line + 1, features := g.close :: s.features } := by
        simp [ReaderState.read, ReaderState.advance, hb]
      rw [hread, hblank]
      exact ih hends' rfl hrest
    · have hl : BeginsFeature k line := hbegins line (by simp [hb])
      rw [read_begins_of_ends hends hc hb hl]

/-- Where a document could be accepted, the reader may as well be outside of all features. -/
lemma readAll_of_finish {ls : List Text} (h : s.finish.rejection = none)
    (hbegins : ∀ line, ls.find? (!Text.isBlank ·) = some line → BeginsFeature k line) :
    s.readAll k ls =
      ReaderState.readAll k { line := s.line, features := s.finish.features.reverse } ls := by
  rcases hc : s.current with _ | ⟨f, p⟩
  · have hfinish : s.finish = { features := s.features.reverse } := by
      simp [ReaderState.finish, hc]
    rw [hfinish, List.reverse_reverse]
    rcases s with ⟨n, fs, c⟩
    obtain rfl : c = none := hc
    rfl
  · obtain ⟨g, hends⟩ := ends_of_finish hc h
    rw [readAll_of_ends hends hc hbegins, finish_of_ends hends hc]
    simp [ReaderState.endBehind]

end ReaderState

/-- Behind a document that is accepted another one is read alike. -/
theorem KeywordTable.read_append_of_ok {ls more : List Text} (hok : (k.read ls).rejection = none)
    (hbegins : ∀ line, more.find? (!Text.isBlank ·) = some line → BeginsFeature k line) :
    k.read (ls ++ more) = (k.read more).behind ls.length (k.read ls).features.reverse := by
  have hread := k.read_append ls []
  rw [List.append_nil] at hread
  rw [k.read_append]
  cases hs : ReaderState.readSome k {} ls with
  | error r =>
    rw [hs] at hread
    have hr : k.read ls = r := hread
    have hsome := ReaderState.rejection_of_readSome hs
    rw [← hr, hok] at hsome
    exact absurd hsome (by simp)
  | ok s =>
    rw [hs] at hread
    have hfinish : k.read ls = s.finish := hread
    have hline := ReaderState.line_of_readSome hs
    rw [hfinish] at hok
    show s.readAll k more = _
    rw [ReaderState.readAll_of_finish hok hbegins, hfinish, hline]
    exact ReaderState.readAll_behind (n := ls.length) s.finish.features.reverse {} more

/-! ### Outcomes -/

lemma lookupAt_skip (resolver : Option Resolver) (n i : Nat) (name : Text) :
    lookupAt (resolver.map (·.skip n)) i name = lookupAt resolver (i + n) name := by
  cases resolver <;> rfl

lemma Feature.bind_revise (f : Feature) (step : Step → Step) (number : Int → Int) (source : Text)
    (found : Lookup) :
    (f.revise step number).bind source found = (f.bind source found).revise step number := rfl

/-- The features and the rejection of what was read and revised, behind some features. -/
lemma Reading.parsing_revised (x : Reading) (r : Revision) (last : Nat → Nat) (prev : List Feature)
    (resolver : Option Resolver) (source : Text) :
    ((x.revised r last prev).parsing resolver source).outcome =
      { features :=
          prev.reverse.mapIdx (fun i f => f.bind source (lookupAt resolver i f.name)) ++
            ((x.parsing (resolver.map (·.skip prev.length)) source).outcome.features).map
              (Feature.revise r.step r.number)
        rejection := x.rejection.map (Rejection.renumber last)
        source } := by
  have hfeatures : (x.features.map (Feature.revise r.step r.number)).mapIdx
      (fun i f => f.bind source (lookupAt resolver (i + prev.reverse.length) f.name)) =
        ((x.parsing (resolver.map (·.skip prev.length)) source).outcome.features).map
          (Feature.revise r.step r.number) := by
    apply List.ext_getElem?
    intro i
    cases hi : x.features[i]? with
    | none => simp [Reading.parsing, hi]
    | some f =>
      simp only [Reading.parsing, List.getElem?_mapIdx, List.getElem?_map, hi, Option.map_some,
        lookupAt_skip, Feature.bind_revise, List.length_reverse]
      rfl
  simp only [Reading.parsing, Reading.revised, List.mapIdx_append]
  rw [hfeatures]
  rfl

/-- The features and the rejection of what was read if lines are moved, behind some features. -/
lemma Reading.parsing_moved (r : Reading) (n : Nat) (d : Nat → Nat) (prev : List Feature)
    (resolver : Option Resolver) (source : Text) :
    ((r.moved n d prev).parsing resolver source).outcome =
      { features :=
          prev.reverse.mapIdx (fun i f => f.bind source (lookupAt resolver i f.name)) ++
            ((r.parsing (resolver.map (·.skip prev.length)) source).outcome.features).map
              (Feature.move d)
        rejection := r.rejection.map (Rejection.shift n)
        source } := by
  rw [Reading.moved_eq_revised, Reading.parsing_revised, Rejection.shift_eq_renumber]
  rfl

lemma Reading.parsing_behind (r : Reading) (n : Nat) (prev : List Feature)
    (resolver : Option Resolver) (source : Text) :
    ((r.behind n prev).parsing resolver source).outcome =
      { features :=
          prev.reverse.mapIdx (fun i f => f.bind source (lookupAt resolver i f.name)) ++
            ((r.parsing (resolver.map (·.skip prev.length)) source).outcome.features).map
              (Feature.shift n)
        rejection := r.rejection.map (Rejection.shift n)
        source } :=
  r.parsing_moved n (fun _ => n) prev resolver source

/-- Behind a document that is accepted, a document whose first line begins a feature gives its own
features and its own rejection, on the lines where it stands then. -/
theorem KeywordTable.parse_append (k : KeywordTable) (resolver : Option Resolver) (source : Text)
    (ls more : List Text) (hok : (k.parse resolver (.lines ls) source).outcome.ok)
    (hbegins : ∀ line, (Source.lines more).toLines.find? (!Text.isBlank ·) = some line →
      BeginsFeature k line) :
    (k.parse resolver (.lines (ls ++ more)) source).outcome =
      { features :=
          (k.parse resolver (.lines ls) source).outcome.features ++
            (k.parse (resolver.map (·.skip
                (k.parse resolver (.lines ls) source).outcome.features.length))
              (.lines more) source).outcome.features.map (Feature.shift ls.length)
        rejection :=
          (k.parse resolver (.lines more) source).outcome.rejection.map
            (Rejection.shift ls.length)
        source } := by
  -- the first part ends where a feature can, so the rest is read as a document of its own
  have hrejection : (k.read (Source.lines ls).toLines).rejection = none :=
    Option.isNone_iff_eq_none.mp hok
  have hlines : (Source.lines (ls ++ more)).toLines =
      (Source.lines ls).toLines ++ (Source.lines more).toLines := List.map_append
  have hlength : (Source.lines ls).toLines.length = ls.length := List.length_map _
  have hcount : (k.parse resolver (.lines ls) source).outcome.features.length =
      (k.read (Source.lines ls).toLines).features.reverse.length := by
    simp [KeywordTable.parse, Reading.parsing]
  rw [hcount]
  simp only [KeywordTable.parse, hlines, read_append_of_ok hrejection hbegins,
    Reading.parsing_behind, hlength, List.reverse_reverse]
  rfl

/-- A scenario that could go on, and a feature behind a blank line. -/
theorem KeywordTable.parse_append_english :
    ((ofEntry "en" Dataset.english).parse none
        (.lines ((["Feature: A", "Scenario: B", "Given c", "When d", "Then e"] : List Text) ++
          (["", "Feature: F", "text"] : List Text))) []).outcome =
      { features :=
          ((ofEntry "en" Dataset.english).parse none
            (.lines ["Feature: A", "Scenario: B", "Given c", "When d", "Then e"])
              []).outcome.features ++
            ((ofEntry "en" Dataset.english).parse none
              (.lines ["", "Feature: F", "text"]) []).outcome.features.map (Feature.shift 5)
        rejection :=
          ((ofEntry "en" Dataset.english).parse none
            (.lines ["", "Feature: F", "text"]) []).outcome.rejection.map (Rejection.shift 5)
        source := [] } := by
  refine parse_append (ofEntry "en" Dataset.english) none []
    ["Feature: A", "Scenario: B", "Given c", "When d", "Then e"] ["", "Feature: F", "text"]
    (by decide +kernel) ?_
  intro line h
  have hfirst : (Source.lines ["", "Feature: F", "text"]).toLines.find? (!Text.isBlank ·) =
      some ("Feature: F" : Text) := by decide +kernel
  rw [hfirst] at h
  cases h
  exact ⟨by decide +kernel, by decide +kernel, by decide +kernel, by decide +kernel,
    by decide +kernel⟩

end FeatureDocs
