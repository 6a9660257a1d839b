import FeatureDocs.Proofs.BlankLines
import FeatureDocs.Proofs.Completion

/-!
# Doc strings are opaque

What stands in a doc string is not looked at, so another body makes no difference but to the doc
string itself and to the numbers of the lines below it: it is a revision of what was read
(`Revision.quote`). That is so for each body that can stand there at all; a line that cannot is the
one for which the document is rejected (`KeywordTable.parse_docString_opaque`).
-/

namespace FeatureDocs

/-! ### Documents with a doc string -/

/-- The doc string that is open after some lines: the number of the line of its step, its
indentation, and its body so far. -/
def KeywordTable.openDocString? (k : KeywordTable) (ls : List Text) :
    Option (Nat × Text × List Text) :=
  match ReaderState.readSome k {} ls with
  | .ok { current := some (_, .step _ { attachment := .docString _ indentation body, line, .. }), .. } =>
    some (line, indentation, body.reverse)
  | _ => none

/-- A document around the body of a doc string. -/
structure Quotation where
  /-- The lines down to the marker that opens the doc string. -/
  above : List Text
  /-- The number of the line of its step. -/
  step : Nat
  indentation : Text
  /-- The line of the marker that ends the doc string. -/
  closing : Text
  below : List Text

namespace Quotation

/-- The lines of the document with a body, which is indented. -/
def lines (q : Quotation) (body : List Text) : List Text :=
  q.above ++ (body.map (q.indentation ++ ·) ++ q.closing :: q.below)

/-- The number of the line that ends the doc string. -/
def closingLine (q : Quotation) (body : List Text) : Nat := q.above.length + body.length + 1

/-- The lines above open a doc string, and the marker ends it. -/
structure Valid (k : KeywordTable) (q : Quotation) : Prop where
  opens : k.openDocString? q.above = some (q.step, q.indentation, [])
  closes : Text.trim q.closing = docStringMarker
  indented : q.indentation.isPrefixOf q.closing

end Quotation

/-! ### Another doc string -/

/-- The number of a line, moved by a distance if it is behind the given one. -/
def moveBehind (c : Nat) (d j : Int) : Int := if j ≤ c then j else j + d

/-- The number of a line behind one whose number becomes `c'`. -/
def lineBehind (c c' j : Nat) : Nat := if j ≤ c then j else j + c' - c

/-- Moving the lines behind the old marker is what the revision does with their numbers. -/
lemma moveBehind_eq_lineBehind (c c' j : Nat) :
    moveBehind c (c' - c) j = lineBehind c c' j := by
  rw [moveBehind, lineBehind]
  split_ifs <;> omega

/-- The step with its line moved, and with the given doc string if it stood on the given line. -/
def Step.quote (line : Nat) (text : Text) (number : Int → Int) (s : Step) : Step :=
  { s with
    docString := if s.line = line then some text else s.docString
    line := number s.line }

/-- With another doc string in place of one that is complete. -/
def Attachment.quote (text : Text) : Attachment → Attachment
  | .afterDocString t _ => .afterDocString t text
  | a => a

/-- With another doc string, if it is complete, and if the step stands on the given line. -/
def OpenStep.quote (line : Nat) (text : Text) (s : OpenStep) : OpenStep :=
  { s with attachment := if s.line = line then s.attachment.quote text else s.attachment }

/-- The doc string of the step on a line is another one, and ends on line `c'` and not on `c`. -/
def Revision.quote (line c c' : Nat) (text : Text) : Revision where
  step := Step.quote line text (moveBehind c (c' - c))
  openStep s := (s.quote line text).renumber (lineBehind c c')
  line := lineBehind c c'
  number := moveBehind c (c' - c)
  number_line := moveBehind_eq_lineBehind c c'
  new_openStep kind text' j := by simp [OpenStep.quote, OpenStep.renumber, Attachment.quote]
  kind_openStep _ := rfl
  closed_openStep s := by
    rw [OpenStep.quote, OpenStep.renumber]
    dsimp only
    split_ifs
    · cases s.attachment <;> exact Iff.rfl
    · exact Iff.rfl

/-- A step whose doc string is complete, if it stands on the given line. -/
def OpenStep.Quoted (line : Nat) (s : OpenStep) : Prop :=
  s.line = line → ∃ t text, s.attachment = .afterDocString t text

section Quote

variable {line c c' : Nat} {text : Text} {s s' : OpenStep} {l : Text}

/-- A step that has had its doc string closed keeps it. -/
lemma OpenStep.Quoted.of_taken (h : s.Quoted line) (ht : s.offer l = .taken s') :
    s'.Quoted line := by
  intro hline
  obtain ⟨t, text, ha⟩ := h ((OpenStep.line_of_taken ht).symm.trans hline)
  simp only [OpenStep.offer, ha] at ht
  split_ifs at ht
  cases ht
  exact ⟨t, text, ha⟩

/-- A step without a complete doc string stays as it is. -/
lemma openStep_quote_eq_self (hle : s.line ≤ c) (h : s.line = line → ¬ s.Quoted line) :
    (Revision.quote line c c' text).openStep s = s := by
  have hquote : s.quote line text = s := by
    rw [OpenStep.quote]
    split_ifs with hline
    · have hattachment : s.attachment.quote text = s.attachment := by
        cases ha : s.attachment with
        | afterDocString t text' => exact absurd (fun _ => ⟨t, text', ha⟩) (h hline)
        | _ => rfl
      rw [hattachment]
    · rfl
  show (s.quote line text).renumber (lineBehind c c') = s
  rw [hquote, OpenStep.renumber, lineBehind, if_pos hle]

lemma OpenStep.line_close (s : OpenStep) : s.close.line = s.line := by
  obtain ⟨kind, name, number, attachment⟩ := s
  cases attachment <;> rfl

lemma OpenStep.close_renumber (g : Nat → Nat) (s : OpenStep) :
    (s.renumber g).close = { s.close with line := g s.line } := by
  obtain ⟨kind, name, number, attachment⟩ := s
  cases attachment <;> rfl

/-- Closing a step whose doc string was replaced gives it the other text. -/
lemma OpenStep.Quoted.close_quote (h : s.Quoted line) :
    (s.quote line text).close =
      { s.close with docString := if s.line = line then some text else s.close.docString } := by
  by_cases hline : s.line = line
  · obtain ⟨t, text', ha⟩ := h hline
    simp [OpenStep.quote, OpenStep.close, Attachment.quote, ha, hline]
  · simp [OpenStep.quote, hline]

lemma OpenStep.Quoted.closes (h : s.Quoted line) :
    (Revision.quote line c c' text).Closes s := by
  show ((s.quote line text).renumber (lineBehind c c')).close = s.close.quote line text _
  rw [OpenStep.close_renumber, h.close_quote, Step.quote, OpenStep.line_close]
  simp only [Int.ofNat_inj, moveBehind_eq_lineBehind]
  rfl

/-- Behind a complete doc string the next line makes no difference between this one and another. -/
lemma OpenStep.Quoted.offer_quote (h : s.Quoted line) (l : Text) :
    (s.quote line text).offer l = (s.offer l).map (OpenStep.quote line text) := by
  by_cases hline : s.line = line
  · obtain ⟨t, text', ha⟩ := h hline
    simp only [OpenStep.quote, hline, if_true, ha, Attachment.quote, OpenStep.offer]
    split_ifs
    · simp [Offer.map, OpenStep.quote, hline, ha, Attachment.quote]
    · rfl
  · have hsame : s.quote line text = s := by simp [OpenStep.quote, hline]
    rw [hsame]
    cases ht : s.offer l with
    | taken s' =>
      have hline' : s'.line ≠ line := by rwa [OpenStep.line_of_taken ht]
      simp [Offer.map, OpenStep.quote, hline']
    | _ => rfl

end Quote

/-! ### Reading above and below a doc string -/

namespace ReaderState

variable {k : KeywordTable} {s s' : ReaderState} {f : OpenFeature} {b : Block} {step : OpenStep}
  {line c c' : Nat} {text l : Text} {ls : List Text}

/-- The reader is behind a line, and the doc string is complete if it is at the step there. -/
structure QuotedAt (line : Nat) (s : ReaderState) : Prop where
  le : line ≤ s.line
  quoted : s.AtStep (OpenStep.Quoted line)

/-- Once the doc string of a step is closed it stays that step's, whatever is read. -/
lemma QuotedAt.readSome (h : s.QuotedAt line) (hread : s.readSome k ls = .ok s') :
    s'.QuotedAt line where
  le := by
    rw [line_of_readSome hread]
    exact Nat.le_add_right_of_le h.le
  quoted := by
    refine atStep_readSome h.quoted hread (fun _ _ m hm _ hline => ?_) fun _ _ _ => .of_taken
    have hm' : m = line := hline
    exact absurd h.le (by omega)

lemma QuotedAt.read (h : s.QuotedAt line) (hread : s.read k l = .ok s') : s'.QuotedAt line := by
  rw [← readSome_singleton] at hread
  exact h.readSome hread

/-- A step stands on one of the lines that were read. -/
lemma line_le_of_read (hs : s.AtStep (·.line ≤ s.line)) (hread : s.read k l = .ok s') :
    s'.AtStep (·.line ≤ s'.line) := by
  rw [line_of_ok hread]
  refine atStep_read hread (fun _ _ => Nat.le_refl _) fun f b step hc step' ht => ?_
  rw [OpenStep.line_of_taken ht]
  exact Nat.le_succ_of_le (hs f b step hc)

/-- The open step never stands below the line that was read last. -/
lemma line_le_of_readSome (hs : s.AtStep (·.line ≤ s.line)) (hread : s.readSome k ls = .ok s') :
    s'.AtStep (·.line ≤ s'.line) := by
  rw [line_of_readSome hread]
  refine atStep_readSome (fun f b step hc => ?_) hread (fun _ _ _ _ hm => hm) ?_
  · exact Nat.le_add_right_of_le (hs f b step hc)
  · intro step line step' hle ht
    rwa [OpenStep.line_of_taken ht]

/-- A step whose doc string is not complete stays as it is. -/
lemma openStep_eq_self (hs : s.AtStep (·.line ≤ s.line)) (hc : s.line ≤ c)
    (hq : ¬ s.QuotedAt line) (hstep : s.current = some (f, .step b step)) :
    (Revision.quote line c c' text).openStep step = step := by
  have hle : step.line ≤ s.line := hs f b step hstep
  refine openStep_quote_eq_self (hle.trans hc) fun hline hquoted => hq ⟨?_, ?_⟩
  · rwa [← hline]
  · exact atStep_of_current hstep hquoted

/-- Another doc string does not interfere with the lines above the end of the doc string. -/
lemma fitsAll_above (hs : s.AtStep (·.line ≤ s.line)) (hread : s.readSome k ls = .ok s')
    (hc : s'.line ≤ c) (hq : ¬ s'.QuotedAt line) :
    (Revision.quote line c c' text).FitsAll id k s ls := by
  induction ls generalizing s with
  | nil => trivial
  | cons l rest ih =>
    have hlength := line_of_readSome hread
    rw [List.length_cons] at hlength
    rw [ReaderState.readSome] at hread
    cases hl : s.read k l with
    | error r =>
      rw [hl] at hread
      cases hread
    | ok s₁ =>
      rw [hl] at hread
      -- the doc string is not complete after these lines, so it was not before
      have hq₁ : ¬ s₁.QuotedAt line := fun h => hq (h.readSome hread)
      have hq₀ : ¬ s.QuotedAt line := fun h => hq₁ (h.read hl)
      have hs₁ := line_le_of_read hs hl
      -- every line so far is above the closing marker, so numbers and steps stay as they are
      have hline₁ := line_of_ok hl
      refine ⟨⟨rfl, if_pos (by omega), ?offer, ?close⟩, fun s₂ hs₂ => ?further⟩
      case offer =>
        intro f b step hstep
        rw [openStep_eq_self hs (by omega) hq₀ hstep]
        cases ht : step.offer l with
        | refused fault => rfl
        | passed => rfl
        | taken step' =>
          have hstep' : s₁.current = some (f, .step b step') := by
            simp only [ReaderState.read, hstep, ht] at hl
            cases hl
            rfl
          rw [Offer.map, openStep_eq_self hs₁ (by omega) hq₁ hstep']
      case close =>
        intro f b step hstep hpassed
        refine OpenStep.Quoted.closes fun hline => absurd ⟨?_, ?_⟩ hq₁
        · have hle : step.line ≤ s.line := hs f b step hstep
          omega
        · refine atStep_read hl (fun _ _ hnew => ?_) fun f' b' step' hstep' _ ht => ?_
          · have hle : step.line ≤ s.line := hs f b step hstep
            have hnew' : s.line + 1 = line := hnew
            omega
          · cases hstep.symm.trans hstep'
            rw [hpassed] at ht
            cases ht
      case further =>
        cases hl.symm.trans hs₂
        exact ih hs₁ hread

/-- Another doc string does not interfere with the lines below. -/
lemma fitsAll_below (hq : s.QuotedAt line) (hc : c ≤ s.line) :
    (Revision.quote line c c' text).FitsAll (fun j => j + c' - c) k s ls := by
  induction ls generalizing s with
  | nil => trivial
  | cons l rest ih =>
    refine ⟨⟨?next, ?begins, ?offer, ?close⟩, fun s₁ hs₁ => ?further⟩
    case next => omega
    case begins => exact if_neg (by omega)
    case offer =>
      intro f b step hstep
      show ((step.quote line text).renumber (lineBehind c c')).offer l = _
      rw [OpenStep.offer_renumber, (hq.quoted f b step hstep).offer_quote]
      cases step.offer l <;> rfl
    case close => exact fun f b step hstep _ => (hq.quoted f b step hstep).closes
    case further =>
      refine ih (hq.read hs₁) ?_
      rw [line_of_ok hs₁]
      exact Nat.le_succ_of_le hc

lemma fitsEnd_below (hq : s.QuotedAt line) :
    (Revision.quote line c c' text).FitsEnd k s ls := by
  intro s' hread f b step hstep
  exact ((hq.readSome hread).quoted f b step hstep).closes

/-- A line that a document is rejected for is none of those before. -/
lemma line_le_of_fault {fault : Fault} {n : Nat}
    (h : (s.readAll k ls).rejection = some (.fault fault n)) : s.line ≤ n := by
  rcases readAll_cases k s ls with ⟨s', hs', hfinish⟩ | ⟨before, l, rest, s', -, hs', hread⟩
  · rw [hfinish] at h
    obtain ⟨-, -, rfl⟩ := fault_of_finish h
    rw [line_of_readSome hs']
    exact Nat.le_add_right _ _
  · have hle : s.line ≤ s'.line := by
      rw [line_of_readSome hs']
      exact Nat.le_add_right _ _
    rcases verdict_cases hread with ⟨fault', hfault, -⟩ | ⟨-, hreject⟩
    · rw [hfault] at h
      cases h
      omega
    · rw [hreject] at h
      cases h
      exact hle

/-- The lines of a doc string that is open. -/
lemma readSome_docString {n number : Nat} {fs : List Feature} {kind : StepKind}
    {name indentation : Text} {t : Option DataTable} {before body : List Text}
    (hbody : ∀ l ∈ body, Text.trim (indentation ++ l) ≠ docStringMarker) :
    ReaderState.readSome k
        ⟨n, fs, some (f, .step b ⟨kind, name, number, .docString t indentation before⟩)⟩
        (body.map (indentation ++ ·)) =
      .ok ⟨n + body.length, fs, some (f, .step b
        ⟨kind, name, number, .docString t indentation (body.reverse ++ before)⟩)⟩ := by
  induction body generalizing n before with
  | nil => rfl
  | cons l body ih =>
    have hprefix : indentation.isPrefixOf (indentation ++ l) := by simp
    rw [List.map_cons, ReaderState.readSome,
      read_docLine (hbody l List.mem_cons_self) hprefix, List.drop_left]
    dsimp only
    rw [ih fun l' hl' => hbody l' (List.mem_cons_of_mem _ hl')]
    simp [Nat.add_assoc, Nat.add_comm 1]

end ReaderState

/-! ### Documents -/

namespace KeywordTable

variable {k : KeywordTable} {q : Quotation} {body : List Text}

/-- The reader below the lines that open a doc string. -/
lemma exists_of_openDocString? {ls : List Text} {line : Nat} {indentation : Text}
    (h : k.openDocString? ls = some (line, indentation, [])) :
    ∃ fs f b kind name t, ReaderState.readSome k {} ls =
      .ok ⟨ls.length, fs,
        some (f, .step b ⟨kind, name, line, .docString t indentation []⟩)⟩ := by
  rw [openDocString?] at h
  split at h
  · next n fs f b kind name line' t indentation' before hread =>
    obtain ⟨rfl, rfl, hbefore⟩ : line' = line ∧ indentation' = indentation ∧ before = [] := by
      simpa using h
    have hn : n = 0 + ls.length := ReaderState.line_of_readSome hread
    rw [Nat.zero_add] at hn
    exact ⟨fs, f, b, kind, name, t, by rw [hread, hbefore, hn]⟩
  · cases h

/-- The lines of a document are read to the end of the doc string, and then those below it. -/
lemma read_lines (hq : q.Valid k) {fs : List Feature} {f : OpenFeature} {b : Block}
    {kind : StepKind} {name : Text} {t : Option DataTable}
    (hopen : ReaderState.readSome k {} q.above = .ok ⟨q.above.length, fs,
      some (f, .step b ⟨kind, name, q.step, .docString t q.indentation []⟩)⟩)
    (hbody : ∀ line ∈ body, Text.trim (q.indentation ++ line) ≠ docStringMarker) :
    k.read (q.lines body) = ReaderState.readAll k ⟨q.closingLine body, fs,
      some (f, .step b ⟨kind, name, q.step, .afterDocString t (Text.join "\n" body)⟩)⟩ q.below := by
  have hattached : attached t (some (Text.join "\n" body)) =
      .afterDocString t (Text.join "\n" body) := by cases t <;> rfl
  rw [Quotation.lines, read_append, hopen]
  simp only [ReaderState.readAll_append, ReaderState.readSome_docString hbody, List.append_nil,
    ReaderState.readAll, read_docEnd hq.closes hq.indented, List.reverse_reverse, hattached]
  rfl

/-- The indentation of a doc string makes no difference to whether a line is a marker. -/
lemma trim_indented (hopen : k.openDocString? q.above = some (q.step, q.indentation, []))
    (line : Text) : Text.trim (q.indentation ++ line) = Text.trim line := by
  obtain ⟨fs, f, b, kind, name, t, hread⟩ := exists_of_openDocString? hopen
  have hnone : ReaderState.Indented {} := by
    intro f b step hc
    cases hc
  exact Text.trim_append_left (ReaderState.indented_readSome hnone hread _ _ _ rfl) line

/-- With another body, the document is read alike. -/
lemma read_lines_eq_revised {body' : List Text} (hq : q.Valid k)
    (hbody : ∀ line ∈ body, Text.trim line ≠ docStringMarker)
    (hbody' : ∀ line ∈ body', Text.trim line ≠ docStringMarker) :
    k.read (q.lines body') =
      (k.read (q.lines body)).revised
        (.quote q.step (q.closingLine body) (q.closingLine body') (Text.join "\n" body'))
        (fun j => j + q.closingLine body' - q.closingLine body) [] := by
  generalize hr : Revision.quote q.step (q.closingLine body) (q.closingLine body')
    (Text.join "\n" body') = r
  obtain ⟨fs, f, b, kind, name, t, hread⟩ := exists_of_openDocString? hq.opens
  have hindented : ∀ ls : List Text, (∀ line ∈ ls, Text.trim line ≠ docStringMarker) →
      ∀ line ∈ ls, Text.trim (q.indentation ++ line) ≠ docStringMarker := by
    intro ls hls line hline
    rw [trim_indented hq.opens]
    exact hls line hline
  have hnone : ReaderState.AtStep (·.line ≤ 0) {} := by
    intro f b step hc
    cases hc
  -- what was read above the doc string is not revised
  have hfits : r.FitsAll id k {} q.above := by
    rw [← hr]
    refine ReaderState.fitsAll_above hnone hread ?_ ?_
    · rw [Quotation.closingLine]
      exact Nat.le_succ_of_le (Nat.le_add_right _ _)
    · rintro ⟨-, hquoted⟩
      obtain ⟨t', text, ha⟩ := hquoted _ _ _ rfl rfl
      cases ha
  have hstate := ReaderState.revised_eq_self hfits hread
  simp only [ReaderState.revised, ReaderState.mk.injEq, Option.map_some, Option.some.injEq,
    Prod.mk.injEq, Place.revise, Place.step.injEq, List.append_nil, id] at hstate
  -- read off: features, open feature and block above the doc string are left as they were
  obtain ⟨-, hfs, hf, hb, -⟩ := hstate
  have hle : q.step ≤ q.closingLine body := by
    have habove : q.step ≤ q.above.length :=
      ReaderState.line_le_of_readSome hnone hread _ _ _ rfl
    exact Nat.le_succ_of_le (Nat.le_add_right_of_le habove)
  have hquoted : ReaderState.QuotedAt q.step ⟨q.closingLine body, fs, some (f, .step b
      ⟨kind, name, q.step, .afterDocString t (Text.join "\n" body)⟩)⟩ :=
    ⟨hle, ReaderState.atStep_of_current rfl fun _ => ⟨t, _, rfl⟩⟩
  have hstep : r.openStep ⟨kind, name, q.step, .afterDocString t (Text.join "\n" body)⟩ =
      ⟨kind, name, q.step, .afterDocString t (Text.join "\n" body')⟩ := by
    rw [← hr]
    simp [Revision.quote, OpenStep.quote, OpenStep.renumber, Attachment.quote, lineBehind, hle]
  rw [read_lines hq hread (hindented body' hbody'), read_lines hq hread (hindented body hbody),
    ← hr, ← ReaderState.readAll_revised [] (ReaderState.fitsAll_below hquoted (Nat.le_refl _))
      (ReaderState.fitsEnd_below hquoted), hr]
  simp only [ReaderState.revised, Option.map_some, Place.revise, hfs, hf, hb, hstep,
    List.append_nil, Nat.add_sub_cancel_left]

/-- The line of a rejection is below the doc string. -/
lemma closingLine_le (hq : q.Valid k) (hbody : ∀ line ∈ body, Text.trim line ≠ docStringMarker)
    {fault : Fault} {n : Nat} (h : (k.read (q.lines body)).rejection = some (.fault fault n)) :
    q.closingLine body ≤ n := by
  obtain ⟨fs, f, b, kind, name, t, hread⟩ := exists_of_openDocString? hq.opens
  rw [read_lines hq hread fun line hline => by
    rw [trim_indented hq.opens]
    exact hbody line hline] at h
  exact ReaderState.line_le_of_fault h

/-- Another body that can stand in a doc string changes the doc string and the numbers of the lines
below it, and nothing else; and a document with a line that cannot stand there is rejected for the
first one. -/
theorem parse_docString_opaque (k : KeywordTable) (resolver : Option Resolver) (source : Text)
    (document : Source) (q : Quotation) (body : List Text) (hq : q.Valid k)
    (hdocument : document.toLines = q.lines body)
    (hbody : ∀ line ∈ body, Text.trim line ≠ docStringMarker) :
    (∀ (document' : Source) (body' : List Text), document'.toLines = q.lines body' →
      (∀ line ∈ body', Text.trim line ≠ docStringMarker) →
      let number := moveBehind (q.closingLine body) (body'.length - body.length)
      (k.parse resolver document' source).outcome.features =
          (k.parse resolver document source).outcome.features.map
            (Feature.revise (Step.quote q.step (Text.join "\n" body') number) number) ∧
        (k.parse resolver document' source).outcome.rejection.map (Rejection.shift body.length) =
          (k.parse resolver document source).outcome.rejection.map
            (Rejection.shift body'.length)) ∧
    ∀ (document' : Source) (body' : List Text) (bad : Text) (rest : List Text),
      document'.toLines = q.above ++ (body'.map (q.indentation ++ ·) ++ bad :: rest) →
      (∀ line ∈ body', Text.trim line ≠ docStringMarker) →
      ¬ q.indentation.isPrefixOf bad → Text.trim bad ≠ docStringMarker →
      (k.parse resolver document' source).outcome.rejection =
        some (.fault .docStringLine (q.above.length + body'.length + 1)) := by
  constructor
  · intro document' body' hdocument' hbody' number
    have hdistance : ((q.closingLine body' : Nat) : Int) - q.closingLine body =
        body'.length - body.length := by
      simp only [Quotation.closingLine]
      omega
    rw [parse, parse, hdocument, hdocument', read_lines_eq_revised hq hbody hbody',
      Reading.parsing_revised]
    constructor
    · simp only [Revision.quote, hdistance]
      cases resolver <;> rfl
    · show ((k.read (q.lines body)).rejection.map _).map _ = (k.read (q.lines body)).rejection.map _
      rw [Option.map_map]
      refine Option.map_congr fun r hr => ?_
      cases r with
      | endOfInput => rfl
      | fault fault n =>
        have hle := closingLine_le hq hbody hr
        have hdistance' : n + q.closingLine body' - q.closingLine body + body.length =
            n + body'.length := by
          simp only [Quotation.closingLine] at hle ⊢
          omega
        exact congrArg (Rejection.fault fault) hdistance'
  · intro document' body' bad rest hdocument' hbody' hbad hmarker
    obtain ⟨fs, f, b, kind, name, t, hread⟩ := exists_of_openDocString? hq.opens
    have hbody'' : ∀ line ∈ body', Text.trim (q.indentation ++ line) ≠ docStringMarker := by
      intro line hline
      rw [trim_indented hq.opens]
      exact hbody' line hline
    rw [parse_rejection, hdocument', read_append, hread]
    simp only [ReaderState.readAll_append, ReaderState.readSome_docString hbody'',
      ReaderState.readAll, read_docLine_error hmarker hbad]
    rfl

/-- A line of text in a doc string is replaced by lines that look like all but text, in a document
that is rejected below; and then the indentation of one of them is lost. -/
theorem parse_docString_opaque_english :
    let k := ofEntry "en" Dataset.english
    let q : Quotation :=
      { above := ["Feature: a", "Scenario: b", "Given c", "\t\u00a0\"\"\""]
        step := 3
        indentation := "\t\u00a0"
        closing := "\t\u00a0\"\"\" "
        below := ["When d", "Then e", "Feature: f", "Scenario: g", "Then h"] }
    let body : List Text := ["text"]
    let body' : List Text := ["Feature: i", "| j |", "", "\"\"\"k"]
    let outcome := (k.parse none (.lines (q.lines body)) []).outcome
    let outcome' := (k.parse none (.lines (q.lines body')) []).outcome
    let rejected := (k.parse none (.lines (q.above ++ (["\t\u00a0Feature: i", " j"] : List Text))) [])
    q.Valid k ∧ outcome.features.map (·.line) = [1] ∧
      outcome.rejection.map (·.message) = some ("Expected a Given step at line 11" : Text) ∧
      outcome'.rejection.map (·.message) = some ("Expected a Given step at line 14" : Text) ∧
      outcome'.features = outcome.features.map
        (Feature.revise (Step.quote 3 (Text.join "\n" body') (moveBehind 6 3)) (moveBehind 6 3)) ∧
      outcome'.rejection.map (Rejection.shift 1) = outcome.rejection.map (Rejection.shift 4) ∧
      rejected.outcome.rejection = some (.fault .docStringLine 6) := by
  intro k q body body' outcome outcome' rejected
  have hq : q.Valid k := ⟨by decide +kernel, by decide +kernel, by decide +kernel⟩
  have hlines : (Source.lines (q.lines body)).toLines = q.lines body := by decide +kernel
  have hopaque := parse_docString_opaque k none [] (.lines (q.lines body)) q body hq hlines
    (by decide +kernel)
  obtain ⟨hfeatures, hrejection⟩ := hopaque.1 (.lines (q.lines body')) body' (by decide +kernel)
    (by decide +kernel)
  have hrejected := hopaque.2 (.lines (q.above ++ (["\t\u00a0Feature: i", " j"] : List Text)))
    ["Feature: i"] " j" [] (by decide +kernel) (by decide +kernel) (by decide +kernel)
    (by decide +kernel)
  exact ⟨hq, by decide +kernel, by decide +kernel, by decide +kernel, hfeatures, hrejection,
    hrejected⟩

end KeywordTable

end FeatureDocs
