import FeatureDocs.Keyword.Packaged
import FeatureDocs.Proofs.Globs
import FeatureDocs.Proofs.Sessions
import FeatureDocs.Suite

/-!
# The files of a suite

A suite is parsed by one parser, which adds the features of all files to one collection
(`Descent.files`). The paths it is given are in strictly ascending order, each file is parsed as by
a new parser, whatever became of the files before it (`Loaded`), and the report has one outcome for
each of them and all their features (`Suite.load_composed`).
-/

namespace FeatureDocs

/-! ### The paths of a suite -/

namespace Suite

variable {t : Tree} {p : Path} {glob : Except Glob.Error Glob} {paths : List Path}

/-- The files are found in ascending order and none of them twice. -/
lemma find_pairwise (h : (find t p glob).1 = .ok paths) :
    paths.Pairwise fun q r => q.le r ∧ q ≠ r := by
  unfold find at h
  split at h
  · cases h
  · cases h
    exact .nil
  · cases h
    exact .nil
  · cases h
    exact List.pairwise_singleton _ p
  · cases h
  · next g hlook =>
    obtain ⟨qs, hqs, rfl⟩ : ∃ qs, g.select t [p] = .ok qs ∧ paths = Path.sort qs := by
      simp only [Glob.paths] at h
      cases hs : g.select t [p] with
      | error e =>
        rw [hs] at h
        cases h
      | ok qs =>
        rw [hs] at h
        exact ⟨qs, rfl, (Except.ok.inj h).symm⟩
    exact Path.pairwise_sort (Glob.nodup_of_select hqs (List.pairwise_singleton _ p))

end Suite

/-! ### One parser for all files -/

/-- Files that are parsed one after the other, each as by a new parser with what is left of the
resolver then, and their outcomes. -/
inductive Loaded (k : KeywordTable) (t : Tree) :
    Option Resolver → List Path → List Outcome → Prop
  | nil (resolver : Option Resolver) : Loaded k t resolver [] []
  | cons {resolver : Option Resolver} {p : Path} {ps : List Path} {text : Text}
      {parsing : Parsing} {visited : List Nat} {outcomes : List Outcome}
      (hread : t.readDocument p = .ok text)
      (hnew : k.descend resolver (.document text) p.toText = some (.ok (parsing, visited)))
      (h : Loaded k t (resolver.map (·.skip parsing.asked.length)) ps outcomes) :
      Loaded k t resolver (p :: ps) (parsing.outcome :: outcomes)

/-- Parse files with one parser, which may have been used before and collects all features. -/
noncomputable def Descent.files (k : KeywordTable) (resolver : Option Resolver) (t : Tree) :
    List Path → Descent (Except Tree.Error (List Outcome))
  | [] => return .ok []
  | p :: ps =>
    match t.readDocument p with
    | .error e => return .error e
    | .ok text => do
      let parsing ← call k resolver (.document text) p.toText
      return (← files k resolver t ps).map (parsing.outcome :: ·)

namespace Suite

variable {k : KeywordTable} {t : Tree} {resolver : Option Resolver} {ps : List Path} {p : Path}
  {outcomes : List Outcome}

/-- The first of some files is parsed, and then the others. -/
lemma parseFiles_cons (h : (parseFiles k t resolver (p :: ps)).1 = .ok outcomes) :
    ∃ text rest, t.readDocument p = .ok text ∧
      (parseFiles k t (resolver.map
        (·.skip (k.parse resolver (.document text) p.toText).asked.length)) ps).1 = .ok rest ∧
      outcomes = (k.parse resolver (.document text) p.toText).outcome :: rest := by
  rw [parseFiles] at h
  cases hread : t.readDocument p with
  | error e =>
    rw [hread] at h
    cases h
  | ok text =>
    rw [hread] at h
    simp only at h
    cases hrest : (parseFiles k t (resolver.map
        (·.skip (k.parse resolver (.document text) p.toText).asked.length)) ps).1 with
    | error e =>
      rw [hrest] at h
      cases h
    | ok rest =>
      rw [hrest] at h
      exact ⟨text, rest, rfl, hrest, (Except.ok.inj h).symm⟩

/-- All files are parsed if they can be read. -/
lemma parseFiles_ok_iff :
    (∃ outcomes, (parseFiles k t resolver ps).1 = .ok outcomes) ↔
      ∀ p ∈ ps, ∃ text, t.readDocument p = .ok text := by
  induction ps generalizing resolver with
  | nil => simp [parseFiles]
  | cons p ps ih =>
    rw [List.forall_mem_cons]
    constructor
    · rintro ⟨outcomes, h⟩
      obtain ⟨text, rest, hread, hrest, -⟩ := parseFiles_cons h
      exact ⟨⟨text, hread⟩, ih.mp ⟨rest, hrest⟩⟩
    · rintro ⟨⟨text, hread⟩, hall⟩
      rw [parseFiles, hread]
      obtain ⟨rest, hrest⟩ := @ih (resolver.map
        (·.skip (k.parse resolver (.document text) p.toText).asked.length)) |>.mpr hall
      simp only [hrest]
      exact ⟨_, rfl⟩

/-- Parsing files in turn loads each as the relation says. -/
lemma loaded_of_parseFiles (h : (parseFiles k t resolver ps).1 = .ok outcomes) :
    Loaded k t resolver ps outcomes := by
  induction ps generalizing resolver outcomes with
  | nil =>
    obtain rfl : [] = outcomes := Except.ok.inj h
    exact .nil resolver
  | cons p ps ih =>
    obtain ⟨text, rest, hread, hrest, rfl⟩ := parseFiles_cons h
    obtain ⟨visited, hnew, -⟩ := k.descend_eq resolver (.document text) p.toText
    exact .cons hread hnew (ih hrest)

/-- The parser that stays and its collection: `s` is where the files before have left it. -/
lemma files_apply (s : Descent.State)
    (h : (parseFiles k t (resolver.map (·.skip s.asked.length)) ps).1 = .ok outcomes) :
    ∃ s', Descent.files k resolver t ps s = some (.ok (.ok outcomes), s') ∧
      s'.features = s.features ++ outcomes.flatMap (·.features) := by
  induction ps generalizing s outcomes with
  | nil =>
    obtain rfl : [] = outcomes := Except.ok.inj h
    exact ⟨s, rfl, (List.append_nil _).symm⟩
  | cons p ps ih =>
    obtain ⟨text, rest, hread, hrest, rfl⟩ := parseFiles_cons h
    obtain ⟨s₁, hcall, hfeatures, hasked⟩ :=
      Descent.call_apply k resolver (.document text) p.toText s
    rw [Resolver.map_skip_skip, ← List.length_append, ← hasked] at hrest
    obtain ⟨s', hfiles, hfeatures'⟩ := ih s₁ hrest
    refine ⟨s', ?_, ?_⟩
    · rw [Descent.files, hread]
      simp only
      rw [Descent.bind_ok hcall, Descent.bind_ok hfiles]
      rfl
    · rw [hfeatures', hfeatures, List.append_assoc, List.flatMap_cons]

end Suite

/-- What a new parser gives is what parsing gives. -/
lemma KeywordTable.eq_parse_of_descend {k : KeywordTable} {resolver : Option Resolver}
    {document : Source} {source : Text} {parsing : Parsing} {visited : List Nat}
    (h : k.descend resolver document source = some (.ok (parsing, visited))) :
    parsing = k.parse resolver document source := by
  obtain ⟨visited', hparse, -⟩ := k.descend_eq resolver document source
  rw [h] at hparse
  cases hparse
  rfl

namespace Loaded

variable {k : KeywordTable} {t : Tree} {resolver : Option Resolver} {ps : List Path}
  {outcomes : List Outcome}

/-- An outcome has the path of its file, and so have all features in it. -/
lemma named (h : Loaded k t resolver ps outcomes) :
    List.Forall₂ (fun p o => o.source = p.toText ∧ ∀ f ∈ o.features, f.file = p.toText) ps
      outcomes := by
  induction h with
  | nil => exact .nil
  | cons hread hnew h ih =>
    obtain rfl := KeywordTable.eq_parse_of_descend hnew
    refine .cons ⟨rfl, ?_⟩ ih
    intro f hf
    obtain ⟨i, hi, rfl⟩ := List.mem_mapIdx.mp hf
    rfl

/-- An outcome is that of one of the files. -/
lemma exists_path (h : Loaded k t resolver ps outcomes) :
    ∀ o ∈ outcomes, ∃ p ∈ ps, o.source = p.toText ∧ ∀ f ∈ o.features, f.file = p.toText := by
  have hnamed := h.named
  clear h
  induction hnamed with
  | nil => simp
  | @cons p o ps os hpo _ ih =>
    refine List.forall_mem_cons.mpr ⟨⟨p, List.mem_cons_self, hpo⟩, fun o' ho' => ?_⟩
    obtain ⟨q, hq, hqo⟩ := ih o' ho'
    exact ⟨q, List.mem_cons_of_mem _ hq, hqo⟩

/-- The features of an outcome were read from the document in its file. -/
lemma exists_document (h : Loaded k t resolver ps outcomes) :
    ∀ o ∈ outcomes, ∃ resolver' text source,
      o = (k.parse resolver' (.document text) source).outcome := by
  induction h with
  | nil => simp
  | @cons resolver p ps text parsing visited outcomes hread hnew _ ih =>
    obtain rfl := KeywordTable.eq_parse_of_descend hnew
    exact List.forall_mem_cons.mpr ⟨⟨resolver, text, p.toText, rfl⟩, ih⟩

/-- An outcome is a rejection if the document in its file is rejected. -/
lemma exists_rejection_iff (h : Loaded k t resolver ps outcomes) :
    (∃ o ∈ outcomes, o.rejection ≠ none) ↔
      ∃ p ∈ ps, ∃ text, t.readDocument p = .ok text ∧
        (k.read (Source.document text).toLines).rejection ≠ none := by
  induction h with
  | nil => simp
  | cons hread hnew h ih =>
    obtain rfl := KeywordTable.eq_parse_of_descend hnew
    rw [List.exists_mem_cons_iff, List.exists_mem_cons_iff, ih]
    refine or_congr_left ?_
    simp only [hread, Except.ok.injEq, exists_eq_left']
    rfl

lemma map_source (h : Loaded k t resolver ps outcomes) :
    outcomes.map (·.source) = ps.map Path.toText := by
  have hnamed := h.named
  clear h
  induction hnamed with
  | nil => rfl
  | cons hfirst _ ih => rw [List.map_cons, List.map_cons, hfirst.1, ih]

end Loaded

/-- A suite that is loaded has been found, and all its files were parsed. -/
lemma Suite.load_ok {k : KeywordTable} {resolver : Option Resolver} {t : Tree} {p : Path}
    {glob : Except Glob.Error Glob} {report : Report} {log : Log}
    (h : load k resolver t p glob = (.ok report, log)) :
    ∃ paths findLog parseLog, find t p glob = (.ok paths, findLog) ∧
      parseFiles k t resolver paths = (.ok report.outcomes, parseLog) ∧
      log = findLog ++ parseLog ++ report.log := by
  rw [load] at h
  rcases hfind : find t p glob with ⟨e | paths, findLog⟩
  · rw [hfind] at h
    cases h
  · rcases hparse : parseFiles k t resolver paths with ⟨e | outcomes, parseLog⟩
    · simp only [hfind, hparse] at h
      cases h
    · simp only [hfind, hparse] at h
      obtain ⟨rfl, rfl⟩ : (⟨outcomes⟩ : Report) = report ∧ _ = log :=
        (Prod.mk.inj h).imp_left Except.ok.inj
      exact ⟨paths, findLog, parseLog, rfl, hparse, rfl⟩

/-- A suite is loaded if it is found and all its files can be read. -/
lemma Suite.load_ok_iff {k : KeywordTable} {resolver : Option Resolver} {t : Tree} {p : Path}
    {glob : Except Glob.Error Glob} :
    (∃ report log, load k resolver t p glob = (.ok report, log)) ↔
      ∃ paths, (find t p glob).1 = .ok paths ∧
        ∀ q ∈ paths, ∃ text, t.readDocument q = .ok text := by
  constructor
  · rintro ⟨report, log, h⟩
    obtain ⟨paths, findLog, parseLog, hfind, hparse, -⟩ := load_ok h
    exact ⟨paths, congrArg Prod.fst hfind,
      parseFiles_ok_iff.mp ⟨report.outcomes, congrArg Prod.fst hparse⟩⟩
  · rintro ⟨paths, hfind, hread⟩
    obtain ⟨outcomes, hparse⟩ := (@parseFiles_ok_iff k t resolver paths).mpr hread
    rw [load, ← Prod.eta (find t p glob), hfind]
    simp only
    rw [← Prod.eta (parseFiles k t resolver paths), hparse]
    exact ⟨⟨outcomes⟩, _, rfl⟩

/-- What makes up the report about the files at some paths. -/
structure Suite.Report.Composed (report : Report) (k : KeywordTable) (resolver : Option Resolver)
    (t : Tree) (paths : List Path) : Prop where
  /-- No path comes twice. -/
  ascending : paths.Pairwise fun q r => q.le r ∧ q ≠ r
  /-- There is one outcome for each file, as a new parser gives it for the file alone. -/
  loaded : Loaded k t resolver paths report.outcomes
  /-- An outcome has the path of its file, and so have all features in it. -/
  named : List.Forall₂ (fun q o => o.source = q.toText ∧ ∀ f ∈ o.features, f.file = q.toText) paths
    report.outcomes
  /-- One parser that stays, wherever its cursor was left, gives these outcomes too, and collects
  the features. -/
  collected : ∀ s : Descent.State, ∃ s',
    Descent.files k resolver t paths { s with features := [], asked := [] } =
      some (.ok (.ok report.outcomes), s') ∧
    s'.features = report.features
  features : report.features = report.outcomes.flatMap (·.features)
  failures : report.failures = report.outcomes.filter (·.rejection.isSome)
  ok_iff : report.ok ↔ report.failures = []

/-- The report about a suite is composed of what its files give alone. -/
theorem Suite.load_composed {k : KeywordTable} {resolver : Option Resolver} {t : Tree} {p : Path}
    {glob : Except Glob.Error Glob} {report : Report} {log : Log}
    (h : load k resolver t p glob = (.ok report, log)) :
    ∃ paths, (find t p glob).1 = .ok paths ∧ report.Composed k resolver t paths := by
  obtain ⟨paths, findLog, parseLog, hfind, hparse, -⟩ := load_ok h
  have hpaths := congrArg Prod.fst hfind
  have houtcomes := congrArg Prod.fst hparse
  have hloaded := loaded_of_parseFiles houtcomes
  refine ⟨paths, hpaths, find_pairwise hpaths, hloaded, hloaded.named, ?collected, rfl, ?failures,
    ?ok_iff⟩
  case collected =>
    intro s
    refine files_apply { s with features := [], asked := [] } ?_
    rw [List.length_nil, Resolver.map_skip_zero]
    exact houtcomes
  case failures => simp [Report.failures, Outcome.failures, Outcome.ok]
  case ok_iff => simp [Report.ok]

/-- A file that is rejected behind its first feature, and one that is accepted. -/
theorem Suite.load_composed_english :
    let k : KeywordTable := .ofEntry "en" Dataset.english
    let t : Tree :=
      ⟨[(["f"], .directory), (["f", "b.feature"], .file (.ofText "Feature: b")),
        (["f", "a.feature"], .file (.ofText "Feature: a\nFeature: c\nScenario:"))]⟩
    ∃ report log, load k none t (.ofText "f") (Glob.ofText defaultPattern) = (.ok report, log) ∧
      report.features.map (·.name) = (["a", "b"] : List Text) ∧
      report.Composed k none t [.ofText "f/a.feature", .ofText "f/b.feature"] := by
  intro k t
  have hsort : Path.sort [.ofText "f/b.feature", .ofText "f/a.feature"] =
      [.ofText "f/a.feature", .ofText "f/b.feature"] := Path.sort_pair rfl
  have hfind : find t (.ofText "f") (Glob.ofText defaultPattern) =
      (.ok (Path.sort [.ofText "f/b.feature", .ofText "f/a.feature"]), []) := rfl
  rw [hsort] at hfind
  have hload : ∃ report log,
      load k none t (.ofText "f") (Glob.ofText defaultPattern) = (.ok report, log) ∧
        report.features.map (·.name) = (["a", "b"] : List Text) := by
    rw [load, hfind]
    exact ⟨_, _, rfl, rfl⟩
  obtain ⟨report, log, hload, hnames⟩ := hload
  obtain ⟨paths, hpaths, hcomposed⟩ := load_composed hload
  rw [hfind] at hpaths
  cases hpaths
  exact ⟨report, log, hload, hnames, hcomposed⟩

end FeatureDocs
