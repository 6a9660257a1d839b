import FeatureDocs.Proofs.Changes
import FeatureDocs.Proofs.Suites

/-!
# All files below a directory

With the default pattern a suite has the files at any depth that have the ending of feature files,
and no others. But a directory may have that ending too, and is read like a file: then nothing is
loaded at all (`Suite.load_stops_at_directory`). If there is none, and no path is too long, the
suite is loaded, and each of the files has its outcome (`Suite.load_covers`).
-/

namespace FeatureDocs

/-- Bytes that are read as characters may be read as a document. -/
lemma Content.document_of_characters {c : Content} {text : Text} (h : c.characters = .ok text) :
    ∃ document, c.document = .ok document := by
  rcases c with bs | v | vs
  · rw [characters] at h
    rw [document]
    split
    · exact ⟨[], rfl⟩
    · rw [h]
      exact ⟨_, rfl⟩
  · cases h
  · cases h

namespace Suite

/-- The ending of the files that the default pattern is for. -/
def ending : Text := ".feature"

lemma defaultPattern_eq : Glob.ofText defaultPattern = .ok (Glob.deep ending) := rfl

/-- The last of some names has the ending of feature files. -/
def NamesFeature (names : List Text) : Prop := ∃ name ∈ names.getLast?, ending <:+ name

instance : DecidablePred NamesFeature := fun names =>
  decidable_of_iff (names.getLast?.any ending.isSuffixOf) (by
    simp only [Option.any_eq_true, List.isSuffixOf_iff_suffix, NamesFeature]
    rfl)

section Directory

variable {t : Tree} {p : Path} {names rest : List Text} {n : Node} {g : Glob}

/-- In a directory it is the glob that finds the files. -/
lemma find_directory (hp : t.locate p.toText = .found names .directory) {paths : List Path} :
    (find t p (.ok g)).1 = .ok paths ↔ ∃ qs, g.select t [p] = .ok qs ∧ paths = Path.sort qs := by
  have hlook : t.lookUp p = .ok (some .directory) := by rw [Tree.lookUp, hp]
  simp only [find, hlook, Glob.paths]
  cases g.select t [p] with
  | error e => simp [Except.map, Except.mapError]
  | ok qs =>
    simp only [Except.map, Except.mapError, Except.ok.injEq, exists_eq_left']
    exact eq_comm

/-- What is below a directory can be read if it is a file and its path is not too long. -/
lemma readDocument_ok_iff (h : t.WellFormed) (hclean : p.IsClean)
    (hp : t.locate p.toText = .found names .directory)
    (htext : ∀ rest c, t.Below names rest (.file c) → ∃ text, c.characters = .ok text)
    (hb : t.Below names rest n) :
    (∃ text, t.readDocument (p.below rest) = .ok text) ↔
      (p.below rest).Fits ∧ ∃ c, n = .file c := by
  have hlocate := Tree.locate_of_below h hclean hp hb
  rw [Tree.readDocument, Tree.readAs, Tree.content, hlocate]
  by_cases hfits : (p.below rest).Fits
  · rw [if_pos hfits, and_iff_right hfits]
    cases n with
    | sink => exact absurd rfl (h.noSink hb.1)
    | directory => simp
    | file c =>
      obtain ⟨text, hchars⟩ := htext rest c hb
      obtain ⟨document, hdocument⟩ := Content.document_of_characters hchars
      simp [hdocument, Except.mapError]
  · rw [if_neg hfits]
    simp [hfits]

end Directory

section Covers

variable {t : Tree} {p : Path} {names : List Text} (h : t.WellFormed) (hclean : p.IsClean)
  (hp : t.locate p.toText = .found names .directory)
include h hclean hp

/-- The default pattern finds the paths of all that has the ending of feature files. -/
lemma mem_find_default {paths : List Path}
    (hfind : (find t p (Glob.ofText defaultPattern)).1 = .ok paths) (q : Path) :
    q ∈ paths ↔ ∃ rest n, t.Below names rest n ∧ NamesFeature rest ∧ q = p.below rest := by
  rw [defaultPattern_eq, find_directory hp] at hfind
  obtain ⟨qs, hqs, rfl⟩ := hfind
  rw [(Path.sort_perm qs).mem_iff, Glob.mem_select_deep h hclean hp hqs]
  rfl

/-- Under the default pattern the search succeeds exactly when no directory has too long a path. -/
lemma find_default_ok_iff :
    (∃ paths, (find t p (Glob.ofText defaultPattern)).1 = .ok paths) ↔
      ∀ rest, t.Below names rest .directory → (p.below rest).Fits := by
  rw [← Glob.select_deep_ok_iff h hclean hp, defaultPattern_eq]
  simp only [find_directory hp]
  constructor
  · rintro ⟨_, qs, hqs, -⟩
    exact ⟨qs, hqs⟩
  · rintro ⟨qs, hqs⟩
    exact ⟨_, qs, hqs, rfl⟩

variable (htext : ∀ rest c, t.Below names rest (.file c) → ∃ text, c.characters = .ok text)
include htext

/-- All that has the ending can be read if it is a file and its path is not too long. -/
lemma forall_readable_iff {paths : List Path}
    (hfind : (find t p (Glob.ofText defaultPattern)).1 = .ok paths) :
    (∀ q ∈ paths, ∃ text, t.readDocument q = .ok text) ↔
      ∀ rest n, t.Below names rest n → NamesFeature rest →
        (p.below rest).Fits ∧ ∃ c, n = .file c := by
  simp only [mem_find_default h hclean hp hfind]
  constructor
  · intro hall rest n hb hfeature
    exact (readDocument_ok_iff h hclean hp htext hb).mp (hall _ ⟨rest, n, hb, hfeature, rfl⟩)
  · rintro hall q ⟨rest, n, hb, hfeature, rfl⟩
    exact (readDocument_ok_iff h hclean hp htext hb).mpr (hall rest n hb hfeature)

end Covers

/-- With the default pattern a directory is loaded just if nothing below it keeps its files from
being found or read: a directory with the ending of feature files, or a path that is too long. Then
each file with the ending has its outcome, at whatever depth it is, and nothing else has. -/
theorem load_covers {t : Tree} {place : Text} {names : List Text} (k : KeywordTable)
    (resolver : Option Resolver) (htree : t.WellFormed)
    (hplace : t.locate (Path.ofText place).toText = .found names .directory)
    (htext : ∀ rest c, t.Below names rest (.file c) → ∃ text, c.characters = .ok text) :
    ((∃ report log,
        load k resolver t (.ofText place) (Glob.ofText defaultPattern) = (.ok report, log)) ↔
      (∀ rest, t.Below names rest .directory →
        ¬ NamesFeature rest ∧ ((Path.ofText place).below rest).Fits) ∧
      ∀ rest c, t.Below names rest (.file c) → NamesFeature rest →
        ((Path.ofText place).below rest).Fits) ∧
    ∀ report log,
      load k resolver t (.ofText place) (Glob.ofText defaultPattern) = (.ok report, log) →
      ∃ paths : List Path, paths.Nodup ∧
        (∀ q, q ∈ paths ↔ ∃ rest c, t.Below names rest (.file c) ∧ NamesFeature rest ∧
          q = (Path.ofText place).below rest) ∧
        Loaded k t resolver paths report.outcomes ∧
        report.outcomes.map (·.source) = paths.map Path.toText := by
  have hclean := Path.isClean_ofText place
  refine ⟨?_, ?_⟩
  · rw [load_ok_iff]
    constructor
    · rintro ⟨paths, hfind, hread⟩
      have hfits := (find_default_ok_iff htree hclean hplace).mp ⟨paths, hfind⟩
      rw [forall_readable_iff htree hclean hplace htext hfind] at hread
      refine ⟨fun rest hb => ⟨fun hfeature => ?_, hfits rest hb⟩,
        fun rest c hb hfeature => (hread rest _ hb hfeature).1⟩
      -- a directory with such a name would be found and could not be read
      obtain ⟨-, c, hc⟩ := hread rest _ hb hfeature
      cases hc
    · rintro ⟨hdirectories, hfiles⟩
      obtain ⟨paths, hfind⟩ := (find_default_ok_iff htree hclean hplace).mpr
        fun rest hb => (hdirectories rest hb).2
      refine ⟨paths, hfind, (forall_readable_iff htree hclean hplace htext hfind).mpr ?_⟩
      intro rest n hb hfeature
      cases n with
      | file c => exact ⟨hfiles rest c hb hfeature, c, rfl⟩
      | directory => exact absurd hfeature (hdirectories rest hb).1
      | sink => exact absurd rfl (htree.noSink hb.1)
  · intro report log hload
    obtain ⟨paths, findLog, parseLog, hfound, hparse, -⟩ := load_ok hload
    have hfind := congrArg Prod.fst hfound
    have houtcomes := congrArg Prod.fst hparse
    have hloaded := loaded_of_parseFiles houtcomes
    have hread := (forall_readable_iff htree hclean hplace htext hfind).mp
      (parseFiles_ok_iff.mp ⟨_, houtcomes⟩)
    refine ⟨paths, (find_pairwise hfind).imp And.right, fun q => ?_, hloaded, hloaded.map_source⟩
    rw [mem_find_default htree hclean hplace hfind]
    constructor
    · rintro ⟨rest, n, hb, hfeature, rfl⟩
      obtain ⟨-, c, rfl⟩ := hread rest n hb hfeature
      exact ⟨rest, c, hb, hfeature, rfl⟩
    · rintro ⟨rest, c, hb, hfeature, rfl⟩
      exact ⟨rest, .file c, hb, hfeature, rfl⟩

/-- A feature file two directories down, and another file. -/
theorem load_covers_english :
    let k : KeywordTable := .ofEntry "en" Dataset.english
    let t := ((({} : Tree).write "f/sub/a.feature" (.file (.ofText "Feature: a"))).1.write
      "f/notes.txt" (.file (.ofText "b"))).1
    ∃ report log, load k none t (.ofText "f") (Glob.ofText defaultPattern) = (.ok report, log) ∧
      report.outcomes.map (·.source) = (["f/sub/a.feature"] : List Text) := by
  intro k t
  have htree : t.WellFormed := (Tree.WellFormed.empty.write (by decide) _).write (by decide) _
  have hnodes : t.nodes = ([("f" :: [], .directory), ("f" :: ["sub"], .directory),
      ("f" :: ["sub", "a.feature"], .file (.ofText "Feature: a")),
      ("f" :: ["notes.txt"], .file (.ofText "b"))] : List (List Text × Node)) := rfl
  have hbelow : ∀ {rest n}, t.Below ["f"] rest n →
      (rest = (["sub"] : List Text) ∧ n = .directory) ∨
        (rest = (["sub", "a.feature"] : List Text) ∧ n = .file (.ofText "Feature: a")) ∨
        (rest = (["notes.txt"] : List Text) ∧ n = .file (.ofText "b")) := by
    intro rest n hb
    have hmem := hb.1
    rw [hnodes] at hmem
    simpa [hb.ne_nil] using hmem
  have hplace : t.locate (Path.ofText "f").toText = .found ["f"] .directory := rfl
  have hcovers := load_covers k none htree hplace (by
    intro rest c hb
    rcases hbelow hb with ⟨-, hc⟩ | ⟨-, hc⟩ | ⟨-, hc⟩ <;> cases hc <;> exact ⟨_, rfl⟩)
  have hloads : ∃ report log,
      load k none t (.ofText "f") (Glob.ofText defaultPattern) = (.ok report, log) := by
    refine hcovers.1.mpr ⟨fun rest hb => ?_, fun rest c hb _ => ?_⟩
    · rcases hbelow hb with ⟨rfl, -⟩ | ⟨-, hc⟩ | ⟨-, hc⟩
      · exact ⟨by decide, by decide⟩
      · cases hc
      · cases hc
    · rcases hbelow hb with ⟨-, hc⟩ | ⟨rfl, -⟩ | ⟨rfl, -⟩
      · cases hc
      · decide
      · decide
  obtain ⟨report, log, hload⟩ := hloads
  obtain ⟨paths, hnodup, hpaths, -, hsource⟩ := hcovers.2 report log hload
  have hperm : paths.Perm [.ofText "f/sub/a.feature"] := by
    refine (List.perm_ext_iff_of_nodup hnodup (List.pairwise_singleton _ _)).mpr fun q => ?_
    rw [hpaths, List.mem_singleton]
    constructor
    · rintro ⟨rest, c, hb, hfeature, rfl⟩
      rcases hbelow hb with ⟨-, hc⟩ | ⟨rfl, -⟩ | ⟨rfl, -⟩
      · cases hc
      · rfl
      · exact absurd hfeature (by decide)
    · rintro rfl
      refine ⟨["sub", "a.feature"], .ofText "Feature: a", ⟨?_, rfl⟩, by decide, rfl⟩
      rw [hnodes]
      simp
  refine ⟨report, log, hload, ?_⟩
  rw [hsource, List.perm_singleton.mp hperm]
  rfl

/-- A directory with the ending of feature files is read like a file, which fails. So nothing is
loaded, not even the file beside it. -/
theorem load_stops_at_directory :
    let k : KeywordTable := .ofEntry "en" Dataset.english
    let t := ((({} : Tree).write "f/a.feature" (.file (.ofText "Feature: a"))).1.write
      "f/b.feature" .directory).1
    t.WellFormed ∧ t.locate (Path.ofText "f").toText = .found ["f"] .directory ∧
      (∀ rest c, t.Below ["f"] rest (.file c) → ∃ text, c.characters = .ok text) ∧
      (load k none t (.ofText "f") (Glob.ofText defaultPattern)).1 =
        .error (.file (.isADirectory "f/b.feature")) := by
  intro k t
  have hnodes : t.nodes = ([("f" :: [], .directory),
      ("f" :: ["a.feature"], .file (.ofText "Feature: a")),
      ("f" :: ["b.feature"], .directory)] : List (List Text × Node)) := rfl
  have hsort : Path.sort [.ofText "f/a.feature", .ofText "f/b.feature"] =
      [.ofText "f/a.feature", .ofText "f/b.feature"] := List.mergeSort_of_pairwise (by decide)
  have hfind : find t (.ofText "f") (Glob.ofText defaultPattern) =
      (.ok (Path.sort [.ofText "f/a.feature", .ofText "f/b.feature"]), []) := rfl
  refine ⟨(Tree.WellFormed.empty.write (by decide) _).write (by decide) _, rfl, ?_, ?_⟩
  · rintro rest c ⟨hmem, -⟩
    rw [hnodes] at hmem
    simp only [List.mem_cons, Prod.mk.injEq, reduceCtorEq, and_false, Node.file.injEq,
      List.not_mem_nil, or_false, false_or] at hmem
    rw [hmem.2]
    exact ⟨_, rfl⟩
  · rw [load, hfind, hsort]
    rfl

end Suite

end FeatureDocs
