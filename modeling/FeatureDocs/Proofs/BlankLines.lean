import FeatureDocs.Proofs.Concatenation
import FeatureDocs.Proofs.Places

/-!
# Blank lines

A blank line leaves the reader where it is, or closes a table; and it makes no difference that a
table is closed, unless the next line is one more row of it. So a blank line may be put in anywhere
but in a doc string and in a table, and all that changes are the numbers of the lines below it
(`KeywordTable.parse_insert_blank`).
-/

namespace FeatureDocs

variable {k : KeywordTable}

/-- Whether the line before is one of a table. -/
def ReaderState.inTable (s : ReaderState) : Bool :=
  match s.current with
  | some (_, .step _ step) =>
    match step.attachment with
    | .table _ => true
    | _ => false
  | some (_, .examplesTable ..) => true
  | _ => false

/-- Whether the line behind so many is read as one more row of the table above it. -/
def KeywordTable.continuesTable (k : KeywordTable) (ls : List Text) (n : Nat) : Bool :=
  match ReaderState.readSome k {} (ls.take n), ls[n]? with
  | .ok s, some line => s.inTable && DataTable.isRow line
  | _, _ => false

namespace ReaderState

variable {s : ReaderState} {blank : Text}

/-- A blank line does nothing but count, outside of doc strings and tables. -/
lemma readAll_blank {ls : List Text} (hb : Text.isBlank blank) (hdocString : s.inDocString = false)
    (htable : s.inTable → ∀ line ∈ ls.head?, ¬ DataTable.isRow line) :
    s.readAll k (blank :: ls) = s.advance.readAll k ls := by
  obtain ⟨n, fs, c⟩ := s
  -- everywhere but in an open table or doc string a blank line is skipped
  have hskips : SkipsBlanks k c → ReaderState.readAll k ⟨n, fs, c⟩ (blank :: ls) =
      ReaderState.readAll k ⟨n + 1, fs, c⟩ ls := by
    intro h
    rw [ReaderState.readAll, h n fs blank hb]
  rcases c with _ | ⟨f, p⟩
  · exact hskips (skipsBlanks_none k)
  cases p with
  | body => exact hskips (skipsBlanks_body k f)
  | head b => exact hskips (skipsBlanks_head k f b)
  | examples b => exact hskips (skipsBlanks_examples k f b)
  | examplesTable b t =>
    have hread : ReaderState.read k ⟨n, fs, some (f, .examplesTable b t)⟩ blank =
        .ok ⟨n + 1, fs, some (f.addOutline b t.close, .body)⟩ := by
      simp [ReaderState.read, ReaderState.advance, ReaderState.goto, hb]
    rw [ReaderState.readAll, hread]
    -- a blank line closes an open table, as the next line would have done
    exact (readAll_examplesTable t (htable rfl)).symm
  | step b step =>
    obtain ⟨kind, text, line, attachment⟩ := step
    cases attachment with
    | bare => exact hskips (skipsBlanks_step k f b kind text line none none)
    | afterTable t => exact hskips (skipsBlanks_step k f b kind text line (some t) none)
    | afterDocString t doc =>
      have hattached : attached t (some doc) = .afterDocString t doc := by cases t <;> rfl
      rw [← hattached] at hskips ⊢
      exact hskips (skipsBlanks_step k f b kind text line t (some doc))
    | docString => cases hdocString
    | table t =>
      have hread :
          ReaderState.read k ⟨n, fs, some (f, .step b ⟨kind, text, line, .table t⟩)⟩ blank =
            .ok ⟨n + 1, fs, some (f, .step b ⟨kind, text, line, .afterTable t.close⟩)⟩ := by
        simp [ReaderState.read, ReaderState.advance, ReaderState.goto, OpenStep.offer, hb]
      rw [ReaderState.readAll, hread]
      exact (readAll_table t (htable rfl)).symm

end ReaderState

/-! ### Documents -/

/-- A blank line behind some others moves the lines below it, and does nothing else. -/
lemma KeywordTable.read_blank_between (before after : List Text) {blank : Text}
    (hb : Text.isBlank blank) (hdocString : ¬ k.docStringOpen (before ++ after) before.length)
    (htable : ¬ k.continuesTable (before ++ after) before.length) :
    ∃ n, k.read (before ++ blank :: after) =
      (k.read (before ++ after)).moved n (fun m => if m ≤ before.length then 0 else 1) [] := by
  generalize hd : (fun m => if m ≤ before.length then 0 else 1) = d
  have htake : (before ++ after).take before.length = before := List.take_left
  rw [docStringOpen, ReaderState.docStringOpen, htake] at hdocString
  rw [continuesTable, htake] at htable
  -- the lines above the blank one are moved by nothing, so what was read of them stays as it is
  have hbefore : ReaderState.readSome k {} before =
      readMoved 0 d [] (ReaderState.readSome k {} before) := by
    have hzero : ∀ m, 0 < m → m ≤ 0 + before.length → d m = 0 := by
      intro m _ hm
      rw [← hd]
      exact if_pos (by omega)
    exact ReaderState.readSome_moved (n := 0) (s := {}) [] hzero
  rw [k.read_append, k.read_append]
  cases hs : ReaderState.readSome k {} before with
  | error r =>
    rw [hs] at hbefore
    exact ⟨0, Except.error.inj hbefore⟩
  | ok s =>
    rw [hs] at hbefore hdocString htable
    have hline : s.line = before.length := by
      rw [ReaderState.line_of_readSome hs]
      exact Nat.zero_add _
    have hsame : s = s.moved 0 d [] := Except.ok.inj hbefore
    have hadvance : s.advance = s.moved 1 d [] := congrArg ReaderState.advance hsame
    have hrow : s.inTable → ∀ line ∈ after.head?, ¬ DataTable.isRow line := by
      intro hin line hline hrow
      obtain ⟨rest, rfl⟩ := List.head?_eq_some_iff.mp hline
      exact htable (by simp [hin, hrow])
    refine ⟨1, ?_⟩
    show s.readAll k (blank :: after) = (s.readAll k after).moved 1 d []
    rw [ReaderState.readAll_blank hb (by simpa using hdocString) hrow, hadvance]
    refine ReaderState.readAll_moved [] after fun m hm => ?_
    rw [← hd]
    exact if_neg (by omega)

/-- A blank line may be put in anywhere but in a doc string and before another row of a table: the
features are the same, apart from the numbers of the lines below it, and a document is rejected for
the same reason or not at all. -/
theorem KeywordTable.parse_insert_blank (k : KeywordTable) (resolver : Option Resolver)
    (source : Text) (document document' : Source) (i : Nat) (blank : Text)
    (hi : i ≤ document.toLines.length) (hblank : Text.isBlank blank)
    (hinsert : document'.toLines = document.toLines.take i ++ blank :: document.toLines.drop i)
    (hdocString : ¬ k.docStringOpen document.toLines i)
    (htable : ¬ k.continuesTable document.toLines i) :
    (k.parse resolver document' source).outcome.features =
        (k.parse resolver document source).outcome.features.map
          (Feature.move fun m => if m ≤ i then 0 else 1) ∧
      (k.parse resolver document' source).outcome.rejection.map (fun r => (r.kindName, r.reason)) =
        (k.parse resolver document source).outcome.rejection.map
          (fun r => (r.kindName, r.reason)) := by
  have hlength : (document.toLines.take i).length = i := List.length_take_of_le hi
  have hlines : document.toLines = document.toLines.take i ++ document.toLines.drop i :=
    (List.take_append_drop i document.toLines).symm
  -- the lines behind the new one are read alike, one number further
  have hread : ∃ n, k.read document'.toLines =
      (k.read document.toLines).moved n (fun m => if m ≤ i then 0 else 1) [] := by
    have h := read_blank_between (k := k) (document.toLines.take i) (document.toLines.drop i) hblank
    rw [← hlines, hlength, ← hinsert] at h
    exact h hdocString htable
  obtain ⟨n, hread⟩ := hread
  simp only [parse, hread, Reading.parsing_moved]
  constructor
  · cases resolver <;> rfl
  · rw [Option.map_map]
    simp only [Function.comp_def, Rejection.kindName_shift, Rejection.reason_shift]
    rfl

/-- A line of blanks between a table and the doc string below it, in a document that is rejected. -/
theorem KeywordTable.parse_insert_blank_english :
    let k := ofEntry "en" Dataset.english
    let document : Source := .lines
      ["Feature: a", "Scenario: b", "Given c", "| d |", "\"\"\"", "e", "\"\"\"", "When f", "Then g",
        "Feature: h", "Scenario: i", "Then j"]
    let document' : Source := .lines
      ["Feature: a", "Scenario: b", "Given c", "| d |", " \t", "\"\"\"", "e", "\"\"\"", "When f",
        "Then g", "Feature: h", "Scenario: i", "Then j"]
    let outcome := (k.parse none document []).outcome
    let outcome' := (k.parse none document' []).outcome
    ¬ k.docStringOpen document.toLines 4 ∧ ¬ k.continuesTable document.toLines 4 ∧
      outcome.features.map (·.line) = [1] ∧
      outcome.rejection.map (·.message) = some ("Expected a Given step at line 12" : Text) ∧
      outcome'.rejection.map (·.message) = some ("Expected a Given step at line 13" : Text) ∧
      outcome'.features = outcome.features.map (Feature.move fun m => if m ≤ 4 then 0 else 1) ∧
      outcome'.rejection.map (fun r => (r.kindName, r.reason)) =
        outcome.rejection.map (fun r => (r.kindName, r.reason)) := by
  intro k document document' outcome outcome'
  have hdocString : ¬ k.docStringOpen document.toLines 4 := by decide +kernel
  have htable : ¬ k.continuesTable document.toLines 4 := by decide +kernel
  exact ⟨hdocString, htable, by decide +kernel, by decide +kernel, by decide +kernel,
    parse_insert_blank k none [] document document' 4 " \t" (by decide) (by decide +kernel) rfl
      hdocString htable⟩

end FeatureDocs
