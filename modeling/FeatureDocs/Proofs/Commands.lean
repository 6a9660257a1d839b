import FeatureDocs.Command.Run
import FeatureDocs.Config.Standard
import FeatureDocs.Proofs.Changes
import FeatureDocs.Proofs.Orders
import FeatureDocs.Proofs.Printing
import FeatureDocs.Proofs.Reports
import FeatureDocs.Proofs.Suites
import FeatureDocs.Proofs.Summaries

/-!
# How runs end

A run that no failure stops tells by its exit code what came of it (`Command.run_ends`): with 2 the
keywords could not be used and nothing was written, with 1 some file was rejected, with 0 none was.
In the last two cases the whole report was printed or written before (`Command.Published`), and what
was rejected is described in the log behind all else (`Command.Reported`). This holds of whatever
reads the arguments and the files of settings; what is on the console in the end is known if it
prints plain texts as they are (`Command.Console.Lawful`).
-/

namespace FeatureDocs

/-! ### What a summary tells -/

/-- A text that tells of all features and all failures of a summary. In lines, it has a heading, a
paragraph about each feature from which can be read what the feature has, in order, and one that
describes what was rejected; if all texts are unbroken, it can be cut into these. As a JSON document,
it tells of no other features and failures. -/
def Summary.IsTold (s : Summary) (t : Text) : ReportFormat → Prop
  | .text => ∃ blocks : List (List Text),
      let told := [s.heading, s.counts.line] :: (blocks ++ s.rejected)
      t = (List.intercalate [[]] told).flatMap (fun l => l ++ ("\n" : Text)) ∧
      blocks.map (·.map Report.Entry.read?) = s.features.map (fun f => f.entries.map some) ∧
      s.Counted (Report.counts blocks) ∧
      (s.Unbroken → Report.paragraphs t = told)
  | .json => ∃ failures, s.failures.map Outcome.failure? = failures.map some ∧
      ∀ label features failures', Json.read? t = some (document label features failures') ↔
        label = s.label ∧ List.Forall₂ Feature.SameButHandle features s.features ∧
          failures' = failures

namespace Summary

lemma isTold_json {s : Summary} {t : Text} (h : Json.read? t = some s.toJson) :
    s.IsTold t .json := by
  obtain ⟨failures, hfailures, hdocument⟩ := s.exists_failures
  refine ⟨failures, hfailures, fun label features failures' => ?_⟩
  rw [h, hdocument, Option.some.injEq, eq_comm, document_eq_iff]

/-- A summary as it is written tells of all that is in it. -/
lemma isTold_render (s : Summary) (format : ReportFormat) :
    s.IsTold (s.render format) format := by
  cases format with
  | text =>
    exact ⟨Report.blocks s.features, s.render_text_eq, read?_blocks s.features, s.counted_blocks,
      paragraphs_render_text⟩
  | json => exact isTold_json s.toJson.read?_write

end Summary

namespace Command

/-! ### Stages -/

namespace Stage

variable {α β : Type} {s : Stage α} {f : α → Stage β}

lemma result_bind_ok {a : α} (h : s.result = .ok a) : (s >>= f).result = (f a).result := by
  show (s.andThen f).result = _
  rw [andThen, h]

lemma result_bind_error {e : Stop} (h : s.result = .error e) : (s >>= f).result = .error e := by
  show (s.andThen f).result = _
  rw [andThen, h]

end Stage

/-- The exit code of a run that no failure stops. -/
lemma resultOf_cases {i : Input} {s : Stage Done} (h : (resultOf i s).error = none) :
    (∃ e, s.result = .error (.keywords e)) ∨ ∃ done, s.result = .ok done := by
  rw [resultOf] at h
  split at h
  · next done hresult => exact .inr ⟨done, hresult⟩
  · next e hresult => exact .inl ⟨e, hresult⟩
  · cases h
  · cases h

/-- Setting up the registry succeeds or fails with an error of its own. -/
lemma registry_result (ps : Providers) (settings : Section) :
    (∃ r, (registry ps settings).result = .ok r) ∨
      ∃ e, (registry ps settings).result = .error (.failure e) := by
  rw [registry]
  split
  · exact .inl ⟨_, rfl⟩
  · exact .inr ⟨_, rfl⟩

/-- A suite that is loaded is at the place that was asked for. -/
lemma suite_result (k : KeywordTable) (r : Registry) (t : Tree) (settings : Section)
    (place : Value) :
    (∃ report, (suite k r t settings place).result = .ok report ∧
      ∃ p log, pathOf place = .ok p ∧
        Suite.load k (some r.resolver) t p
          (Glob.ofValue (Config.get settings "features.pattern" (.text Suite.defaultPattern))) =
            (.ok report, log)) ∨
      ∃ e, (suite k r t settings place).result = .error (.failure e) := by
  rw [suite]
  cases hpath : pathOf place with
  | error e => exact .inr ⟨e, rfl⟩
  | ok p =>
    rcases hload : Suite.load k (some r.resolver) t p
      (Glob.ofValue (Config.get settings "features.pattern" (.text Suite.defaultPattern)))
      with ⟨e | report, log⟩
    · simp only [hload]
      exact .inr ⟨_, rfl⟩
    · simp only [hload]
      exact .inl ⟨report, rfl, p, log, rfl, hload⟩

/-- What is left of a run that has published a summary: one text was printed, or it is in the file
that was asked for, unless that is the sink; and this text tells of all that is in the summary. -/
structure Published (o : Options) (t : Tree) (s : Summary) (format : ReportFormat)
    (texts : List Text) (t' : Tree) : Prop where
  told : s.IsTold (s.render format) format
  printed : given? o.output = none → texts = [s.render format] ∧ t' = t
  written : ∀ path, given? o.output = some path → texts = [] ∧
    (t'.content path = .ok (.ofText (s.render format)) ∨
      ∃ names, t'.locate path = .found names .sink)

/-- What publishing ends with: the report is where the options say, or the file could not be
written. -/
lemma publish_result (o : Options) (t : Tree) (s : Summary) (format : ReportFormat) :
    (∃ done, (publish o t s format).result = .ok done ∧ done.failures = s.failures ∧
      Published o t s format done.printed done.tree) ∨
      ∃ t' e, (publish o t s format).result = .error (.unwritten t' e) := by
  unfold publish
  cases houtput : given? o.output with
  | none =>
    refine .inl ⟨_, rfl, rfl, s.isTold_render format, fun _ => ⟨rfl, rfl⟩, fun path hpath => ?_⟩
    rw [houtput] at hpath
    cases hpath
  | some path =>
    -- the text that is stored is the one that would have been printed, so it tells the same
    rcases hwrite : t.write path (.file (.ofText (s.render format))) with ⟨t', _ | e⟩
    · simp only [Summary.save, hwrite]
      refine .inl ⟨_, rfl, rfl, s.isTold_render format, fun hnone => ?_, fun path' hpath => ?_⟩
      · rw [houtput] at hnone
        cases hnone
      · rw [houtput] at hpath
        obtain rfl := Option.some.inj hpath
        exact ⟨rfl, Tree.content_of_write hwrite⟩
    · simp only [Summary.save, hwrite]
      exact .inr ⟨t', e, rfl⟩

/-- A lawful console shows a report that is printed, if it is plain; and it shows a JSON document. -/
lemma Published.output {c : Console} (hc : c.Lawful) {o : Options} {t t' : Tree} {s : Summary}
    {format : ReportFormat} {texts : List Text} (h : Published o t s format texts t')
    (hnone : given? o.output = none) :
    ((s.render format).Plain → texts.flatMap c.echo = s.render format ++ "\n") ∧
      (format = .json → s.IsTold (texts.flatMap c.echo) .json) := by
  rw [(h.printed hnone).1, List.flatMap_singleton]
  refine ⟨hc.echo_plain _, ?_⟩
  rintro rfl
  apply Summary.isTold_json
  show Json.read? (c.echo s.toJson.write) = some s.toJson
  rw [hc.echo_plain _ s.toJson.plain_write]
  exact s.toJson.read?_write_append (Json.endsNumber_newline 0 []) rfl

/-! ### Runs -/

/-- The settings that a run loads. -/
def loadingOf (o : Options) (i : Input) : Config.Loading :=
  Config.load i.readers i.tree i.environment (Path.ofText o.config) o.environment []

/-- The language that a run asks for. -/
def languageOf (o : Options) (settings : Section) : Value :=
  choose o.language settings "parser.language" "en"

/-- The summary of a report. -/
def summaryOf (i : Input) (k : KeywordTable) (report : Suite.Report) : Summary where
  label := k.language
  time := i.time
  features := report.features
  outcomes := report.outcomes

/-- The keywords that a run needs cannot be used: the dataset, or the language in it, unless the
languages are only listed. -/
def KeywordsFail (o : Options) (i : Input) (settings : Section) : Prop :=
  (∃ e, (dataset i settings).result = .error (.keywords e)) ∨
    o.listLanguages = false ∧ ∃ d e, (dataset i settings).result = .ok d ∧
      (keywords d (languageOf o settings)).result = .error (.keywords e)

/-- A run that has listed the languages of a dataset. -/
structure Listed (c : Console) (d : Dataset) (t : Tree) (result : Result) : Prop where
  exitCode : result.exitCode = 0
  /-- Each code is printed by itself. -/
  printed : result.printed = d.codes
  output : (∀ code ∈ d.codes, Text.Plain code) →
    result.output c = d.codes.flatMap fun code => code ++ ("\n" : Text)
  ascending : d.codes.Pairwise fun code code' => Text.le code code'
  codes : d.codes.Perm (Mapping.keys d.languages)
  tree : result.tree = t

/-- What is said about the documents that were rejected: each is described. -/
def failureLog (failures : List Outcome) : Log :=
  failures.map fun f => ⟨.error, f.describe⟩

/-- A run that has reported on the files at some paths, with a threshold for its log. -/
structure Reported (c : Console) (o : Options) (i : Input) (d : Dataset) (n : Nat)
    (paths : List Path) (k : KeywordTable) (report : Suite.Report) (result : Result) : Prop where
  keywords : (Command.keywords d (languageOf o (loadingOf o i).settings)).result = .ok k
  found : ∃ p, pathOf (choose o.features (loadingOf o i).settings "features.dir" "features") = .ok p ∧
    (Suite.find i.tree p (Glob.ofValue
      (Config.get (loadingOf o i).settings "features.pattern" (.text Suite.defaultPattern)))).1 =
        .ok paths
  loaded : ∃ r, (registry i.providers (loadingOf o i).settings).result = .ok r ∧
    Loaded k i.tree (some r.resolver) paths report.outcomes
  exitCode : result.exitCode = 0 ∨ result.exitCode = 1
  /-- The exit code is that of a rejection if the document in some file is rejected. -/
  rejected : result.exitCode = 1 ↔ ∃ q ∈ paths, ∃ text, i.tree.readDocument q = .ok text ∧
    (k.read (Source.document text).toLines).rejection ≠ none
  features : report.features = report.outcomes.flatMap (·.features)
  failures : report.failures = report.outcomes.filter (·.rejection.isSome)
  published : Published o i.tree (summaryOf i k report) (formatOf o (loadingOf o i).settings)
    result.printed result.tree
  /-- What was printed can be read on the console, if it is plain or JSON. -/
  output : given? o.output = none →
    let text := (summaryOf i k report).render (formatOf o (loadingOf o i).settings)
    (text.Plain → result.output c = text ++ "\n") ∧
      (formatOf o (loadingOf o i).settings = .json →
        (summaryOf i k report).IsTold (result.output c) .json)
  /-- The lines of a report in text can be told apart, whatever the files hold. -/
  unbroken : k.language.Unbroken → (∀ q ∈ paths, q.toText.Unbroken) →
    (summaryOf i k report).Unbroken
  /-- The numbers in a report are those of what it tells. -/
  counted : (summaryOf i k report).misplaced = []
  /-- Behind all else that is said, what was rejected is described, in order. -/
  log : result.log = (loadingOf o i).log ++ (perform o i (loadingOf o i).settings).log ++
    failureLog report.failures
  /-- Of what is said, the thresholds of the time let some through: of the descriptions all or
  none. -/
  shown : result.shown = Log.shown i.threshold (loadingOf o i).log ++
    Log.shown n (perform o i (loadingOf o i).settings).log ++
      if n ≤ Log.Level.error.number then failureLog report.failures else []

section Run

variable {o : Options} {i : Input} {settings : Section} {d : Dataset} {s : Stage Done} {done : Done}

/-- A run that no failure stops has got its settings and the threshold of its log. -/
lemma runOptions_eq (h : (runOptions o i).error = none) :
    (loadingOf o i).error = none ∧ ∃ n, threshold (loadingOf o i).settings = .ok n ∧
      (resultOf i (perform o i (loadingOf o i).settings)).error = none ∧
      runOptions o i =
        { resultOf i (perform o i (loadingOf o i).settings) with
          log := (loadingOf o i).log ++ (resultOf i (perform o i (loadingOf o i).settings)).log
          shown := Log.shown i.threshold (loadingOf o i).log ++
            Log.shown n (resultOf i (perform o i (loadingOf o i).settings)).log } := by
  unfold runOptions at h ⊢
  rw [← loadingOf] at h ⊢
  cases hloading : (loadingOf o i).error with
  | some e =>
    simp only [hloading] at h
    cases h
  | none =>
    simp only [hloading] at h ⊢
    cases hthreshold : threshold (loadingOf o i).settings with
    | error e =>
      simp only [hthreshold] at h
      cases h
    | ok n =>
      simp only [hthreshold] at h ⊢
      exact ⟨trivial, n, rfl, h, rfl⟩

lemma resultOf_ok (h : s.result = .ok done) :
    resultOf i s =
      { exitCode := if done.failures.isEmpty then 0 else 1
        printed := done.printed
        tree := done.tree
        log := s.log ++ failureLog done.failures } := by
  rw [resultOf, h]
  rfl

/-- An unknown language or a bad dataset exits with 2 and changes no file. -/
lemma resultOf_keywords {e : KeywordError} (h : s.result = .error (.keywords e)) :
    (resultOf i s).exitCode = 2 ∧ (resultOf i s).printed = [] ∧ (resultOf i s).tree = i.tree := by
  rw [resultOf, h]
  exact ⟨rfl, rfl, rfl⟩

/-- How a run ends that does not list languages. -/
inductive Ends (o : Options) (i : Input) (settings : Section) (d : Dataset) :
    Except Stop Done → Prop
  | keywords {e : KeywordError}
      (h : (keywords d (languageOf o settings)).result = .error (.keywords e)) :
      Ends o i settings d (.error (.keywords e))
  | stopped {stop : Stop} (h : ∀ e, stop ≠ .keywords e) : Ends o i settings d (.error stop)
  | done {done : Done} {k : KeywordTable} {r : Registry} {p : Path} {report : Suite.Report}
      {log : Log} (hkeywords : (keywords d (languageOf o settings)).result = .ok k)
      (hregistry : (registry i.providers settings).result = .ok r)
      (hplace : pathOf (choose o.features settings "features.dir" "features") = .ok p)
      (hload : Suite.load k (some r.resolver) i.tree p (Glob.ofValue
        (Config.get settings "features.pattern" (.text Suite.defaultPattern))) = (.ok report, log))
      (hfailures : done.failures = report.failures)
      (hpublished : Published o i.tree (summaryOf i k report) (formatOf o settings) done.printed
        done.tree) :
      Ends o i settings d (.ok done)

/-- What the command does from the settings and the dataset on. -/
lemma report_ends (o : Options) (i : Input) (settings : Section) (d : Dataset) :
    Ends o i settings d (report o i settings d).result := by
  rw [report, Stage.result_bind_ok rfl]
  rcases registry_result i.providers settings with ⟨r, hregistry⟩ | ⟨e, hregistry⟩
  case inr =>
    rw [Stage.result_bind_error hregistry]
    exact .stopped (by simp)
  rw [Stage.result_bind_ok hregistry]
  cases hkeywords : (keywords d (choose o.language settings "parser.language" "en")).result with
  | error e =>
    rw [Stage.result_bind_error hkeywords]
    cases e with
    | keywords e => exact .keywords hkeywords
    | failure e => exact .stopped (by simp)
    | unwritten t e => exact .stopped (by simp)
  | ok k =>
    rw [Stage.result_bind_ok hkeywords]
    rcases suite_result k r i.tree settings (choose o.features settings "features.dir" "features")
      with ⟨found, hsuite, p, log, hplace, hload⟩ | ⟨e, hsuite⟩
    case inr =>
      rw [Stage.result_bind_error hsuite]
      exact .stopped (by simp)
    rw [Stage.result_bind_ok hsuite]
    rcases publish_result o i.tree (summaryOf i k found) (formatOf o settings)
      with ⟨done, hdone, hfailures, hpublished⟩ | ⟨t', e, hdone⟩
    · have hresult := Ends.done hkeywords hregistry hplace hload hfailures hpublished
      rwa [← hdone] at hresult
    · have hresult : Ends o i settings d (.error (.unwritten t' e)) := .stopped (by simp)
      rwa [← hdone] at hresult

/-- With a dataset, the keywords fail only if a language is needed that it does not have. -/
lemma keywordsFail_iff (hdataset : (dataset i settings).result = .ok d) :
    KeywordsFail o i settings ↔ o.listLanguages = false ∧
      ∃ e, (keywords d (languageOf o settings)).result = .error (.keywords e) := by
  constructor
  · rintro (⟨e, he⟩ | ⟨hlist, d', e, hd', he⟩)
    · rw [hdataset] at he
      cases he
    · obtain rfl : d = d' := Except.ok.inj (hdataset.symm.trans hd')
      exact ⟨hlist, e, he⟩
  · rintro ⟨hlist, e, he⟩
    exact .inr ⟨hlist, d, e, hdataset, he⟩

/-- A run that no failure stops fails for its keywords, or gets to its end. -/
lemma perform_cases (h : (resultOf i (perform o i settings)).error = none) :
    (KeywordsFail o i settings ∧
      ∃ e, (perform o i settings).result = .error (.keywords e)) ∨
    (¬ KeywordsFail o i settings ∧ ∃ d done, (dataset i settings).result = .ok d ∧
      (perform o i settings).result = .ok done ∧
      if o.listLanguages then done = { printed := d.codes, tree := i.tree }
      else Ends o i settings d (.ok done)) := by
  cases hdataset : (dataset i settings).result with
  | error e =>
    have hperform : (perform o i settings).result = .error e := by
      rw [perform, Stage.result_bind_error hdataset]
    rcases resultOf_cases h with ⟨e', he⟩ | ⟨done, hdone⟩
    · obtain rfl : e = .keywords e' := Except.error.inj (hperform.symm.trans he)
      exact .inl ⟨.inl ⟨e', hdataset⟩, e', hperform⟩
    · rw [hperform] at hdone
      cases hdone
  | ok d =>
    have hperform : (perform o i settings).result =
        (if o.listLanguages then pure { printed := d.codes, tree := i.tree }
          else report o i settings d : Stage Done).result := by
      rw [perform, Stage.result_bind_ok hdataset]
    rw [keywordsFail_iff hdataset]
    cases hlist : o.listLanguages with
    | true =>
      rw [hlist, if_pos rfl] at hperform
      exact .inr ⟨by simp, d, _, rfl, hperform, rfl⟩
    | false =>
      rw [hlist, if_neg Bool.false_ne_true] at hperform
      have hends := report_ends o i settings d
      rw [← hperform] at hends
      rcases resultOf_cases h with ⟨e, he⟩ | ⟨done, hdone⟩
      · rw [he] at hends
        cases hends with
        | keywords hkeywords => exact .inl ⟨⟨rfl, e, hkeywords⟩, e, he⟩
        | stopped hstop => exact absurd rfl (hstop e)
      · rw [hdone] at hends
        refine .inr ⟨?_, d, done, rfl, hdone, hends⟩
        rintro ⟨-, e, hkeywords⟩
        cases hends with
        | done hkeywords' =>
          rw [hkeywords] at hkeywords'
          cases hkeywords'

/-- All descriptions of what was rejected are shown, or none. -/
lemma shown_failureLog (n : Nat) (failures : List Outcome) :
    Log.shown n (failureLog failures) =
      if n ≤ Log.Level.error.number then failureLog failures else [] := by
  have hleast : ((if n = 0 then Log.fallbackThreshold else n) ≤ Log.Level.error.number) ↔
      n ≤ Log.Level.error.number := by
    split
    · next hzero => simp [hzero, Log.fallbackThreshold, Log.Level.number]
    · exact Iff.rfl
  have hlevel : ∀ e ∈ failureLog failures, e.level = .error := by
    rw [failureLog, List.forall_mem_map]
    exact fun _ _ => rfl
  have hall : ∀ e ∈ failureLog failures,
      decide ((if n = 0 then Log.fallbackThreshold else n) ≤ e.level.number) =
        decide (n ≤ Log.Level.error.number) := by
    intro e he
    rw [hlevel e he, decide_eq_decide]
    exact hleast
  rw [Log.shown, List.filter_congr hall]
  split
  · next hle => simp [hle]
  · next hlt => simp [hlt]

/-- What is read from files can be reported: it is made of unbroken texts, and its outlines are in
their places. -/
lemma readable_summaryOf {k : KeywordTable} {resolver : Option Resolver} {paths : List Path}
    {report : Suite.Report} (h : Loaded k i.tree resolver paths report.outcomes) :
    (k.language.Unbroken → (∀ q ∈ paths, q.toText.Unbroken) → (summaryOf i k report).Unbroken) ∧
      (summaryOf i k report).misplaced = [] := by
  have hread : ∀ f ∈ report.features, ∃ document : Source,
      f.IsRead document ∧ document.BreaksAtEnds := by
    intro f hf
    obtain ⟨outcome, houtcome, hf⟩ := List.mem_flatMap.mp hf
    obtain ⟨resolver', text, source, rfl⟩ := h.exists_document outcome houtcome
    exact ⟨.document text, ⟨k, resolver', source, hf⟩, trivial⟩
  constructor
  · intro hlanguage hpaths
    refine .of_isRead hlanguage ?_ ?_ hread
    · intro f hf
      obtain ⟨outcome, houtcome, hf⟩ := List.mem_flatMap.mp hf
      obtain ⟨q, hq, -, hfile⟩ := h.exists_path outcome houtcome
      exact hfile f hf ▸ hpaths q hq
    · intro outcome houtcome
      obtain ⟨q, hq, hsource, -⟩ := h.exists_path outcome (List.mem_of_mem_filter houtcome)
      exact hsource ▸ hpaths q hq
  · refine Summary.misplaced_eq_nil fun f hf => ?_
    obtain ⟨document, hisRead, -⟩ := hread f hf
    exact ⟨document, hisRead⟩

/-- The report of a run that gets to its end. -/
lemma reported_of_ends {c : Console} (hc : c.Lawful) {n : Nat} {result : Result}
    (hdone : (perform o i (loadingOf o i).settings).result = .ok done)
    (hresult : result =
      { resultOf i (perform o i (loadingOf o i).settings) with
        log := (loadingOf o i).log ++ (resultOf i (perform o i (loadingOf o i).settings)).log
        shown := Log.shown i.threshold (loadingOf o i).log ++
          Log.shown n (resultOf i (perform o i (loadingOf o i).settings)).log })
    (h : Ends o i (loadingOf o i).settings d (.ok done)) :
    ∃ paths k report, Reported c o i d n paths k report result := by
  cases h with
  | @done _ k r p report log hkeywords hregistry hplace hload hfailures hpublished =>
    obtain ⟨paths, findLog, parseLog, hfind, hparse, -⟩ := Suite.load_ok hload
    have hloaded := Suite.loaded_of_parseFiles (congrArg Prod.fst hparse)
    have hfailed : report.failures = report.outcomes.filter (·.rejection.isSome) := by
      simp [Suite.Report.failures, Outcome.failures, Outcome.ok]
    obtain ⟨hunbroken, hcounted⟩ := readable_summaryOf (i := i) hloaded
    rw [resultOf_ok hdone, hfailures] at hresult
    subst hresult
    refine ⟨paths, k, report, hkeywords, ⟨p, hplace, congrArg Prod.fst hfind⟩,
      ⟨r, hregistry, hloaded⟩, ?exitCode, ?rejected, rfl, hfailed, hpublished,
      hpublished.output hc, hunbroken, hcounted, (List.append_assoc _ _ _).symm, ?shown⟩
    case exitCode =>
      show (if report.failures.isEmpty then 0 else 1) = 0 ∨
        (if report.failures.isEmpty then 0 else 1) = 1
      split <;> simp
    case rejected =>
      rw [← hloaded.exists_rejection_iff]
      show (if report.failures.isEmpty then 0 else 1) = 1 ↔ _
      rw [hfailed]
      simp [Option.isSome_iff_ne_none]
    case shown =>
      rw [Log.shown_append, shown_failureLog, List.append_assoc]

end Run

end Command

end FeatureDocs
