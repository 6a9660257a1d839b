import FeatureDocs.Keyword.Packaged
import FeatureDocs.Proofs.Stops
import FeatureDocs.Proofs.Totality
import FeatureDocs.Proofs.Verdicts

/-!
# Faults are final

A document that is rejected for a fault is rejected for the last line that was read, whatever the
lines behind it are (`KeywordTable.parse_fault`). Only the examples of an outline have to be looked
for one line further: that they have no table is seen by a line which is not read.
-/

namespace FeatureDocs

variable {k : KeywordTable}

/-! ### The line that decides -/

/-- In a feature some lines have been read. -/
lemma ReaderState.line_pos {s : ReaderState} {ls : List Text}
    (h : ReaderState.readSome k {} ls = .ok s) (hc : s.current.isSome) : 1 ≤ ls.length := by
  cases ls with
  | nil =>
    cases h
    cases hc
  | cons line rest => simp

/-- The verdict for a line does not depend on the lines behind it. -/
lemma KeywordTable.read_of_take {before ls : List Text} {line : Text} {s : ReaderState}
    {r : Reading} (hs : ReaderState.readSome k {} before = .ok s) (hr : s.read k line = .error r)
    (h : ls.take (before.length + 1) = before ++ [line]) : k.read ls = r := by
  have hls : ls = before ++ line :: ls.drop (before.length + 1) := by
    conv_lhs => rw [← List.take_append_drop (before.length + 1) ls, h]
    simp
  rw [hls, k.read_append, hs]
  simp only [ReaderState.readAll, hr]

/-- What the lines of a document say about its fault: where it is, and how many lines decide. -/
lemma KeywordTable.read_fault {ls : List Text} {fault : Fault} {n : Nat}
    (h : (k.read ls).rejection = some (.fault fault n)) :
    (1 ≤ n ∧ n ≤ ls.length) ∧
      (fault ≠ .examplesWithoutTable →
        ∀ ls', ls'.take n = ls.take n → k.read ls' = k.read ls) ∧
      (fault = .examplesWithoutTable → n < ls.length →
        ∀ ls', ls'.take (n + 1) = ls.take (n + 1) → k.read ls' = k.read ls) := by
  rcases ReaderState.readAll_cases k {} ls with
    ⟨s, hs, hfinish⟩ | ⟨before, line, rest, s, rfl, hs, hread⟩
  · have hline : s.line = ls.length := by
      rw [ReaderState.line_of_readSome hs]
      exact Nat.zero_add _
    have hread : k.read ls = s.finish := hfinish
    rw [hread] at h
    -- the end of the input is a fault only where a table is missing, and then no line follows
    obtain ⟨hc, rfl, rfl⟩ := ReaderState.fault_of_finish h
    have hpos := ReaderState.line_pos hs hc
    refine ⟨⟨by omega, by omega⟩, fun hne => absurd rfl hne, fun _ hlt => ?_⟩
    omega
  · have hline : s.line = before.length := by
      rw [ReaderState.line_of_readSome hs]
      exact Nat.zero_add _
    have hdecides : ∀ ls', ls'.take (before.length + 1) =
        (before ++ line :: rest).take (before.length + 1) →
          k.read ls' = k.read (before ++ line :: rest) := by
      intro ls' h'
      refine KeywordTable.read_of_take hs hread (h'.trans ?_)
      simp [List.take_append, List.take_of_length_le]
    rw [List.length_append, List.length_cons]
    -- only a missing table is named in an earlier line than the one that decides
    rcases ReaderState.verdict_cases hread with ⟨fault', hfault, hne⟩ | ⟨hc, heq⟩
    · have heq : (k.read (before ++ line :: rest)).rejection = some (.fault fault' (s.line + 1)) :=
        hfault
      rw [h, hline] at heq
      cases heq
      exact ⟨⟨by omega, by omega⟩, fun _ => hdecides, fun hfault => absurd hfault hne⟩
    · have heq : k.read (before ++ line :: rest) = s.reject .examplesWithoutTable := heq
      have hpos := ReaderState.line_pos hs hc
      rw [heq] at h
      cases h
      rw [hline]
      exact ⟨⟨hpos, by omega⟩, fun hne => absurd rfl hne, fun _ _ => hdecides⟩

/-! ### The line of a fault in a descent -/

/-- A descent that rejects a document for a fault has its cursor behind the line of the fault. -/
lemma KeywordTable.descend_fault (k : KeywordTable) (resolver : Option Resolver)
    (document : Source) (source : Text) {fault : Fault} {n : Nat}
    (h : (k.parse resolver document source).outcome.rejection = some (.fault fault n)) :
    ∃ visited, k.descend resolver document source =
      some (.ok (k.parse resolver document source, n :: visited)) := by
  obtain ⟨visited, hdescend, -, -⟩ := k.descend_eq resolver document source
  have hmarks := Descent.document_marks k resolver source { cursor := Cursor.ofSource document }
  rw [hdescend]
  unfold KeywordTable.descend at hdescend
  split at hdescend
  case h_1 => cases hdescend
  case h_2 s hx =>
    injection hdescend with hdescend
    injection hdescend with hdescend
    rw [← (Prod.mk.inj hdescend).1] at h
    cases h
  case h_3 r s hx =>
    injection hdescend with hdescend
    injection hdescend with hdescend
    obtain ⟨hparsing, rfl⟩ := Prod.mk.inj hdescend
    rw [← hparsing] at h
    obtain rfl : r = .fault fault n := Option.some.inj h
    obtain ⟨hmarked, hline⟩ := hmarks _ s hx rfl
    obtain rfl := hline fault n rfl
    obtain ⟨rest, hrest⟩ := List.head?_eq_some_iff.mp hmarked
    exact ⟨rest, by rw [hrest]⟩
  case h_4 => injection hdescend with hdescend; cases hdescend

/-- A document that is rejected for a fault in line `n` has that line, which is the last one that
was read; and all that is read, asked and said is the same for every document with the same first
`n` lines. If the fault is that examples have no table, it takes the next line, if there is one, to
know that. -/
theorem KeywordTable.parse_fault (k : KeywordTable) (resolver : Option Resolver)
    (document : Source) (source : Text) (fault : Fault) (n : Nat)
    (h : (k.parse resolver document source).outcome.rejection = some (.fault fault n)) :
    (1 ≤ n ∧ n ≤ document.toLines.length) ∧
      (∃ visited, k.descend resolver document source =
        some (.ok (k.parse resolver document source, n :: visited))) ∧
      (fault ≠ .examplesWithoutTable →
        ∀ document', document'.toLines.take n = document.toLines.take n →
          k.parse resolver document' source = k.parse resolver document source) ∧
      (fault = .examplesWithoutTable → n < document.toLines.length →
        ∀ document', document'.toLines.take (n + 1) = document.toLines.take (n + 1) →
          k.parse resolver document' source = k.parse resolver document source) := by
  obtain ⟨hbounds, hfinal, htable⟩ := KeywordTable.read_fault h
  refine ⟨hbounds, k.descend_fault resolver document source h, ?_, ?_⟩
  · intro hfault document' hlines
    rw [parse, parse, hfinal hfault _ hlines]
  · intro hfault hlt document' hlines
    rw [parse, parse, htable hfault hlt _ hlines]

/-- A line that is no step, and a line that is no row where a table has to begin. -/
theorem KeywordTable.parse_fault_english :
    let k := ofEntry "en" Dataset.english
    let short : Source := .lines ["Feature: A", "Scenario: B", "Given c", "d"]
    let long : Source := .lines ["Feature: A", "Scenario: B", "Given c", "d", "Feature: F"]
    let outline : Source := .lines
      ["Feature: A", "Scenario Outline: B", "Given c", "When d", "Then e", "Examples:", "", "f"]
    let outlines : Source := .lines
      ["Feature: A", "Scenario Outline: B", "Given c", "When d", "Then e", "Examples:", "", "f",
        "|g|"]
    ((k.parse none short []).outcome.rejection = some (.fault (.expectedStep .action) 4) ∧
        (1 ≤ 4 ∧ 4 ≤ short.toLines.length) ∧
        (∃ visited, k.descend none short [] = some (.ok (k.parse none short [], 4 :: visited))) ∧
        k.parse none long [] = k.parse none short []) ∧
      (k.parse none outline []).outcome.rejection = some (.fault .examplesWithoutTable 7) ∧
        7 < outline.toLines.length ∧ k.parse none outlines [] = k.parse none outline [] := by
  intro k short long outline outlines
  have hstep : (k.parse none short []).outcome.rejection =
      some (.fault (.expectedStep .action) 4) := by rfl
  have htable : (k.parse none outline []).outcome.rejection =
      some (.fault .examplesWithoutTable 7) := by rfl
  have hlt : 7 < outline.toLines.length := by decide +kernel
  obtain ⟨hbounds, hread, hfinal, -⟩ := k.parse_fault none short [] _ 4 hstep
  obtain ⟨-, -, -, hlooked⟩ := k.parse_fault none outline [] _ 7 htable
  exact ⟨⟨hstep, hbounds, hread, hfinal nofun long rfl⟩, htable, hlt, hlooked rfl hlt outlines rfl⟩

end FeatureDocs
