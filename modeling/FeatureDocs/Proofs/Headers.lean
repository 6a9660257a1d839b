import FeatureDocs.Keyword.Packaged
import FeatureDocs.Proofs.Independence
import FeatureDocs.Proofs.Positions
import FeatureDocs.Proofs.Totality
import FeatureDocs.Proofs.Verdicts

/-!
# The headers of features

A line that begins a feature is its header; the reader is then in a feature that began with the last
line. What is read of a document has a name for each header, in order, and a feature for each but
the last one at most (`ReaderState.keeps_readAll`); and that one is left just if the document is
rejected in its feature (`KeywordTable.outcome_completes`). So a resolver is asked once for each
header, and its answers are seen nowhere but in the implementations of the features
(`KeywordTable.descend_resolver`).
-/

namespace FeatureDocs

/-! ### Headers -/

/-- Whether the feature that the reader is in began with the last line. -/
def ReaderState.atHeader (s : ReaderState) : Bool := s.current.any fun (f, _) => f.line == s.line

/-- The last line, with its number, if the feature that the reader is in began with it. -/
def ReaderState.header (s : ReaderState) (line : Text) : List Line :=
  if s.atHeader then [⟨s.line, line⟩] else []

/-- The lines that begin a feature, with their numbers, up to the one that a document is rejected
for. -/
def ReaderState.headers (k : KeywordTable) : ReaderState → List Text → List Line
  | _, [] => []
  | s, line :: rest =>
    match s.read k line with
    | .ok s => s.header line ++ headers k s rest
    | .error _ => []

/-- The lines of a document that begin a feature. -/
def KeywordTable.headers (k : KeywordTable) (ls : List Text) : List Line :=
  ReaderState.headers k {} ls

/-- The name in the header of a feature. -/
def KeywordTable.headerName (k : KeywordTable) (l : Line) : Text :=
  k.strip (Text.trim l.text) .feature

/-- Where a feature begins, and its name. -/
def Feature.key (f : Feature) : Int × Text := (f.line, f.name)

/-- Where the feature with a header begins, and its name. -/
def KeywordTable.headerKey (k : KeywordTable) (l : Line) : Int × Text := (l.number, k.headerName l)

namespace ReaderState

/-! ### The features that were begun -/

/-- Where the features begin that are complete and the one that is being read, and their names. -/
def begun (s : ReaderState) : List (Int × Text) :=
  s.features.reverse.map Feature.key ++ s.current.toList.map fun (f, _) => ((f.line : Int), f.name)

/-- The feature that is being read begins with a line that was read. -/
def Begun (s : ReaderState) : Prop := ∀ f p, s.current = some (f, p) → f.line ≤ s.line

lemma begun_nil : Begun {} := by
  intro f p hc
  cases hc

variable {k : KeywordTable} {s s' : ReaderState} {line : Text} {r : Reading} {ls : List Text}

lemma atHeader_of_lt {f : OpenFeature} {p : Place} (hc : s.current = some (f, p))
    (h : f.line < s.line) : s.atHeader = false := by
  rw [atHeader, hc]
  exact beq_false_of_ne (Nat.ne_of_lt h)

/-- A feature that ends is complete where it began. -/
lemma begun_of_ends {f g : OpenFeature} {p : Place} {final : Bool}
    (hc : s.current = some (f, p)) (h : Ends f p g final) :
    (g.close :: s.features).reverse.map Feature.key = s.begun := by
  have hkey : g.close.key = (↑f.line, f.name) := by
    rw [Feature.key, ← h.line, ← h.name]
    rfl
  rw [begun, hc, List.reverse_cons, List.map_append, List.map_cons, hkey]
  rfl

/-- A line begins one more feature, if it is a header, or none. -/
lemma begun_read (hs : s.Begun) (hread : s.read k line = .ok s') :
    s'.Begun ∧ s'.begun = s.begun ++ (s'.header line).map k.headerKey ∧
      (s'.atHeader → k.Matches (Text.trim line) .feature) := by
  have hmoves := moves k s line
  generalize hx : s.read k line = x at hmoves
  rw [hread] at hx
  cases hmoves with
  | rejects => cases hx
  | idle hc =>
    cases hx
    refine ⟨fun f p hc' => (by cases hc'), ?_, fun h => (by cases h)⟩
    simp [begun, hc, header, atHeader]
  | begins hc hf =>
    cases hx
    refine ⟨fun f p hc' => (by cases hc'; exact Nat.le_refl _), ?_, fun _ => hf⟩
    simp [begun, hc, header, atHeader, KeywordTable.headerKey, KeywordTable.headerName]
  | @stays f f' p p' hc hline _ hname =>
    cases hx
    have hlt : f'.line < s.line + 1 := by
      rw [hline]
      exact Nat.lt_succ_of_le (hs f p hc)
    have hnot := atHeader_of_lt (s := ⟨s.line + 1, s.features, some (f', p')⟩) rfl hlt
    refine ⟨fun f p hc' => (by cases hc'; exact Nat.le_of_lt hlt), ?_, ?_⟩
    · rw [header, hnot, begun, begun, hc]
      simp [hline, hname]
    · rw [hnot]
      exact fun h => by cases h
  | @ends f g p _ hc _ _ hends =>
    -- the feature that ends keeps its key, so closing it leaves the headers begun as they were
    rcases readFeature_cases (k := k) ⟨s.line + 1, g.close :: s.features, none⟩ line with
      ⟨hf, hbegins⟩ | hfault
    · rw [hbegins] at hx
      cases hx
      refine ⟨fun f p hc' => (by cases hc'; exact Nat.le_refl _), ?_, fun _ => hf⟩
      rw [← begun_of_ends hc hends]
      simp [begun, header, atHeader, goto, KeywordTable.headerKey, KeywordTable.headerName]
    · rw [hfault] at hx
      cases hx

/-- What was read of a document that ends or is rejected: its features, and the names of all that
were begun. -/
def Keeps (s : ReaderState) (r : Reading) : Prop :=
  r.features.map Feature.key <+: s.begun ∧ r.names = s.begun.map Prod.snd

lemma keeps_of_features (hfeatures : r.features = s.features.reverse)
    (habandoned : r.abandoned = s.current.map (·.1.name)) : s.Keeps r := by
  constructor
  · rw [hfeatures]
    exact List.prefix_append _ _
  · rw [Reading.names, hfeatures, habandoned, begun]
    cases s.current <;> simp [Feature.key, Function.comp_def]

lemma keeps_of_ends {f g : OpenFeature} {p : Place} {final : Bool}
    (hc : s.current = some (f, p)) (h : Ends f p g final)
    (hfeatures : r.features = (g.close :: s.features).reverse) (habandoned : r.abandoned = none) :
    s.Keeps r := by
  rw [Keeps, ← begun_of_ends hc h, Reading.names, hfeatures, habandoned]
  refine ⟨List.prefix_refl _, ?_⟩
  simp [Feature.key, Function.comp_def]

lemma keeps_read (hread : s.read k line = .error r) : s.Keeps r := by
  rcases cases_of_error hread with ⟨hfeatures, -, habandoned⟩ | ⟨f, g, p, _, hc, hends, rfl⟩
  · exact keeps_of_features hfeatures habandoned
  · exact keeps_of_ends hc hends rfl rfl

lemma keeps_finish (s : ReaderState) : s.Keeps s.finish := by
  rcases s.finish_cases with ⟨hfeatures, habandoned⟩ | ⟨f, p, g, hc, hends, h⟩
  · exact keeps_of_features hfeatures habandoned
  · rw [h]
    exact keeps_of_ends hc hends rfl rfl

/-! ### Whole documents -/

/-- What is left of a document has a name for each header, and a feature for each but the last one
at most. -/
lemma keeps_readAll (hs : s.Begun) :
    (s.readAll k ls).names =
        s.begun.map Prod.snd ++ (s.headers k ls).map k.headerName ∧
      (s.readAll k ls).features.map Feature.key <+:
        s.begun ++ (s.headers k ls).map k.headerKey := by
  induction ls generalizing s with
  | nil =>
    obtain ⟨hfeatures, hnames⟩ := s.keeps_finish
    simpa [ReaderState.readAll, headers] using ⟨hnames, hfeatures⟩
  | cons line rest ih =>
    simp only [ReaderState.readAll, headers]
    cases hread : s.read k line with
    | error r =>
      obtain ⟨hfeatures, hnames⟩ := keeps_read hread
      simpa using ⟨hnames, hfeatures⟩
    | ok s' =>
      obtain ⟨hs', hbegun, -⟩ := begun_read hs hread
      obtain ⟨hnames, hfeatures⟩ := ih hs'
      rw [hbegun, List.append_assoc, ← List.map_append] at hfeatures
      rw [hbegun, List.map_append, List.append_assoc, List.map_map] at hnames
      refine ⟨?_, hfeatures⟩
      rw [List.map_append]
      exact hnames

/-- Headers are some of the lines, in order, and begin with the keyword of a feature. -/
lemma headers_spec (hs : s.Begun) :
    (s.headers k ls).Sublist (numberFrom s.line ls) ∧
      ∀ l ∈ s.headers k ls, k.Matches (Text.trim l.text) .feature := by
  induction ls generalizing s with
  | nil => exact ⟨.slnil, by simp [headers]⟩
  | cons line rest ih =>
    simp only [headers, numberFrom_cons]
    cases hread : s.read k line with
    | error r => exact ⟨List.nil_sublist _, by simp⟩
    | ok s' =>
      obtain ⟨hs', -, hmatches⟩ := begun_read hs hread
      obtain ⟨hsublist, hrest⟩ := ih hs'
      have hline : s'.line = s.line + 1 := line_of_ok hread
      dsimp only
      rw [header, hline]
      rw [hline] at hsublist
      split_ifs with hheader
      · refine ⟨hsublist.cons_cons _, ?_⟩
        exact List.forall_mem_cons.mpr ⟨hmatches hheader, hrest⟩
      · exact ⟨hsublist.cons _, hrest⟩

/-! ### The feature that a document is rejected in -/

/-- A line is rejected in a feature, unless a feature was expected. -/
lemma abandoned_of_error (hread : s.read k line = .error r) (hnone : r.abandoned = none) :
    ∃ n, r.rejection = some (.fault .expectedFeature n) := by
  rcases cases_of_error hread with ⟨-, -, habandoned⟩ | ⟨_, _, _, _, -, -, rfl⟩
  · have hc : s.current = none := by
      rw [habandoned] at hnone
      exact Option.map_eq_none_iff.mp hnone
    simp only [ReaderState.read, hc] at hread
    split_ifs at hread
    rcases readFeature_cases (k := k) s.advance line with ⟨-, hbegins⟩ | hfault
    · rw [hbegins] at hread
      cases hread
    · rw [hfault] at hread
      cases hread
      exact ⟨_, rfl⟩
  · exact ⟨_, rfl⟩

/-- At its end a document is rejected just if it ends in a feature. -/
lemma abandoned_finish (s : ReaderState) :
    s.finish.abandoned = none ↔ s.finish.rejection = none := by
  rcases hc : s.current with _ | ⟨f, p⟩
  · simp [ReaderState.finish, hc]
  · cases p with
    | step b st =>
      simp only [ReaderState.finish, hc]
      split <;> simp [endTooEarly, endBehind, hc]
    | _ => simp [ReaderState.finish, hc, endBehind, endTooEarly, ReaderState.reject]

end ReaderState

namespace KeywordTable

section Headers

variable (k : KeywordTable) (ls : List Text)

/-- A document is accepted or rejected outside of all features, or there is one that it is rejected
in. -/
lemma abandoned_read :
    ((k.read ls).rejection = none → (k.read ls).abandoned = none) ∧
      ((k.read ls).abandoned = none → (k.read ls).rejection = none ∨
        ∃ n, (k.read ls).rejection = some (.fault .expectedFeature n)) := by
  rcases ReaderState.readAll_cases k {} ls with
    ⟨s, -, hfinish⟩ | ⟨before, line, rest, s, -, -, hread⟩
  · rw [KeywordTable.read, hfinish, s.abandoned_finish]
    exact ⟨id, .inl⟩
  · refine ⟨fun h => ?_, fun h => .inr (ReaderState.abandoned_of_error hread h)⟩
    have hsome := ReaderState.rejection_of_error hread
    rw [← KeywordTable.read, h] at hsome
    cases hsome

/-- The names of all features, the abandoned one included, are those of the headers. -/
lemma names_read : (k.read ls).names = (k.headers ls).map k.headerName :=
  (ReaderState.keeps_readAll ReaderState.begun_nil).1

lemma features_read :
    (k.read ls).features.map Feature.key <+: (k.headers ls).map k.headerKey :=
  (ReaderState.keeps_readAll ReaderState.begun_nil).2

lemma headers_sublist : (k.headers ls).Sublist (numberFrom 0 ls) :=
  (ReaderState.headers_spec ReaderState.begun_nil).1

lemma rising_headers : Rising (k.headers ls) :=
  (rising_numberFrom 0 ls).1.sublist (k.headers_sublist ls)

lemma matches_of_mem_headers {l : Line} (h : l ∈ k.headers ls) :
    k.Matches (Text.trim l.text) .feature :=
  (ReaderState.headers_spec ReaderState.begun_nil).2 l h

/-- A feature that begins with one of the first headers begins above the others. -/
lemma line_lt_of_mem_drop {n : Nat} {f : Feature} {l : Line}
    (hf : f.key ∈ ((k.headers ls).take n).map k.headerKey) (hl : l ∈ (k.headers ls).drop n) :
    f.line < l.number := by
  have hrising := k.rising_headers ls
  rw [Rising, ← List.take_append_drop n (k.headers ls), List.pairwise_append] at hrising
  obtain ⟨m, hm, hkey⟩ := List.mem_map.mp hf
  have hline : (m.number : Int) = f.line := congrArg Prod.fst hkey
  rw [← hline]
  exact Int.ofNat_lt.mpr (hrising.2.2 m hm l hl)

/-- All features that were begun are complete, but for the one that the document is rejected in. -/
lemma length_headers :
    (k.headers ls).length =
      (k.read ls).features.length + (k.read ls).abandoned.toList.length := by
  have hlen := congrArg List.length (k.names_read ls)
  rw [List.length_map, Reading.names, List.length_append, List.length_map] at hlen
  exact hlen.symm

end Headers

lemma key_parse (k : KeywordTable) (resolver : Option Resolver) (document : Source)
    (source : Text) :
    (k.parse resolver document source).outcome.features.map Feature.key =
      (k.read document.toLines).features.map Feature.key :=
  (k.read document.toLines).map_parsing resolver source fun _ _ => rfl

end KeywordTable

/-- The features of an outcome are those with the first headers of the document, and with all of
them if it was accepted. If it was rejected, one header may be left, below all features; and one is,
that of the feature in which it was rejected, unless a feature was expected. -/
structure Outcome.Completes (k : KeywordTable) (ls : List Text) (o : Outcome) : Prop where
  first : o.features.map Feature.key = ((k.headers ls).take o.features.length).map k.headerKey
  accepted : o.rejection = none → (k.headers ls).length = o.features.length
  rejected : ∀ r, o.rejection = some r → (∀ n, r ≠ .fault .expectedFeature n) →
    (k.headers ls).length = o.features.length + 1
  length_le : (k.headers ls).length ≤ o.features.length + 1
  below : ∀ l ∈ (k.headers ls).drop o.features.length, ∀ f ∈ o.features, f.line < l.number

/-- An outcome has the features of its headers, and lacks at most the last one. -/
lemma KeywordTable.outcome_completes (k : KeywordTable) (resolver : Option Resolver)
    (document : Source) (source : Text) :
    (k.parse resolver document source).outcome.Completes k document.toLines := by
  obtain ⟨haccepted, hrejected⟩ := k.abandoned_read document.toLines
  have hlen := k.length_headers document.toLines
  have hfeatures : (k.parse resolver document source).outcome.features.length =
      (k.read document.toLines).features.length := List.length_mapIdx
  -- the features are the first headers, and the only one missing can be the abandoned one
  have hfirst : (k.parse resolver document source).outcome.features.map Feature.key =
      ((k.headers document.toLines).take
        (k.parse resolver document source).outcome.features.length).map k.headerKey := by
    rw [k.key_parse, List.prefix_iff_eq_take.mp (k.features_read document.toLines), List.length_map,
      hfeatures, List.map_take]
  rw [← hfeatures] at hlen
  constructor
  case first => exact hfirst
  case accepted =>
    intro h
    rw [hlen, haccepted h]
    rfl
  case rejected =>
    intro r h hr
    cases habandoned : (k.read document.toLines).abandoned with
    | none =>
      rcases hrejected habandoned with hnone | ⟨n, hexpected⟩
      · exact absurd (h.symm.trans hnone) (by simp)
      · exact absurd (Option.some.inj (h.symm.trans hexpected)) (hr n)
    | some name =>
      rw [hlen, habandoned]
      rfl
  case length_le =>
    rw [hlen]
    cases (k.read document.toLines).abandoned <;> simp
  case below =>
    intro l hl f hf
    have hkey := List.mem_map_of_mem (f := Feature.key) hf
    rw [hfirst] at hkey
    exact k.line_lt_of_mem_drop document.toLines hkey hl

/-! ### Resolvers -/

/-- What becomes of a document whose features are looked up with a resolver: it is asked once for
each header that is read, also for that of a feature in which the document is rejected; and each
feature has the implementation that was found in the search for it. -/
structure Parsing.Consults (k : KeywordTable) (resolver : Option Resolver) (ls : List Text)
    (p : Parsing) : Prop where
  asked : p.asked = if resolver.isSome then (k.headers ls).map k.headerName else []
  completes : p.outcome.Completes k ls
  implementation : ∀ i f, p.outcome.features[i]? = some f →
    f.implementation = (lookupAt resolver i f.name).handle?

namespace KeywordTable

/-- The resolver is asked for each header in turn, with the name behind the keyword. -/
lemma parse_consults (k : KeywordTable) (resolver : Option Resolver) (document : Source)
    (source : Text) :
    (k.parse resolver document source).Consults k resolver document.toLines := by
  constructor
  case asked =>
    rw [← k.names_read]
    rfl
  case completes => exact k.outcome_completes resolver document source
  case implementation =>
    intro i f hf
    obtain ⟨g, -, rfl⟩ : ∃ g, (k.read document.toLines).features[i]? = some g ∧
        g.bind source (lookupAt resolver i g.name) = f := by
      simpa [parse, Reading.parsing] using hf
    rfl

/-- The resolver has no influence on what is read. Whatever a descent asks, and whatever it is
answered at each call, it ends with the same rejection, and with the same features but for their
implementations; and these are what it was answered when it came by the header of the feature. -/
theorem descend_resolver (k : KeywordTable) (resolver resolver' : Option Resolver)
    (document : Source) (source : Text) :
    ∃ p p' visited visited',
      k.descend resolver document source = some (.ok (p, visited)) ∧
      k.descend resolver' document source = some (.ok (p', visited')) ∧
      p'.outcome.rejection = p.outcome.rejection ∧
      p'.outcome.source = p.outcome.source ∧
      p'.outcome.features.map (fun f => { f with implementation := none }) =
        p.outcome.features.map (fun f => { f with implementation := none }) ∧
      p.Consults k resolver document.toLines ∧
      p'.Consults k resolver' document.toLines ∧
      (k.headers document.toLines).Sublist (numberFrom 0 document.toLines) ∧
      ∀ l ∈ k.headers document.toLines, k.Matches (Text.trim l.text) .feature := by
  obtain ⟨visited, hdescend, -⟩ := k.descend_eq resolver document source
  obtain ⟨visited', hdescend', -⟩ := k.descend_eq resolver' document source
  have herase (resolver : Option Resolver) :=
    (k.read document.toLines).map_parsing (g := fun f => { f with implementation := none })
      (h := fun f => { f with implementation := none, file := source }) resolver source
      (fun _ _ => rfl)
  refine ⟨_, _, visited, visited', hdescend, hdescend', rfl, rfl, ?_, k.parse_consults _ _ _,
    k.parse_consults _ _ _, k.headers_sublist _, fun l => k.matches_of_mem_headers _⟩
  rw [parse, parse, herase, herase]

/-- A document that is rejected in its second feature. The search for the first feature finds
something, and the other one fails. -/
theorem descend_resolver_english :
    let k := ofEntry "en" Dataset.english
    let document : Source := .lines ["Feature: a", "", "Feature: b", "Scenario: c"]
    let find : Resolver := fun i _ => if i = 0 then .ok (some (.value (.bool true))) else .error "d"
    k.headers document.toLines = [⟨1, "Feature: a"⟩, ⟨3, "Feature: b"⟩] ∧
      k.Matches (Text.trim "Feature: b") .feature ∧
      ∃ p p' visited visited',
        k.descend (some find) document [] = some (.ok (p, visited)) ∧
        k.descend none document [] = some (.ok (p', visited')) ∧
        p'.outcome.rejection = p.outcome.rejection ∧
        p.asked = ["a", "b"] ∧ p'.asked = [] := by
  intro k document find
  obtain ⟨p, p', visited, visited', hp, hp', hrejection, -, -, hconsults, hconsults', -, hmatches⟩ :=
    k.descend_resolver (some find) none document []
  have hheaders : k.headers document.toLines = [⟨1, "Feature: a"⟩, ⟨3, "Feature: b"⟩] := by rfl
  rw [hheaders] at hmatches
  refine ⟨hheaders, hmatches ⟨3, "Feature: b"⟩ (by simp), p, p', visited, visited', hp, hp',
    hrejection, ?_, hconsults'.asked⟩
  rw [hconsults.asked, hheaders]
  rfl

end KeywordTable

end FeatureDocs
