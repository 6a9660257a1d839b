import FeatureDocs.Keyword.Packaged
import FeatureDocs.Suite
import Mathlib.Data.List.Basic
import Mathlib.Tactic.Lemma

/-!
# Lines and their breaks

A text is empty, begins with a line break, or begins with another character (`Text.byBreaks`); what
is done with lines is followed along these cases. A document has the same lines as one text, as a
list of lines that still have their breaks, with every break written as LF, and in a file, with a
mark or without one (`Source.toLines_eq`).
-/

namespace FeatureDocs

namespace Text

/-- The texts that end a line. -/
def lineBreaks : List Text := ["\r\n", "\r", "\n"]

/-- A line break in front of a text. A CR in front of an LF is only half of one. -/
inductive Breaks : Text → Text → Prop
  | crlf (t : Text) : Breaks ['\r', '\n'] t
  | cr {t : Text} (h : t.head? ≠ some '\n') : Breaks ['\r'] t
  | lf (t : Text) : Breaks ['\n'] t

/-- The texts with a character in front of the first one. -/
def consFirst (c : Char) : List Text → List Text
  | [] => [[c]]
  | t :: ts => (c :: t) :: ts

/-- The text cut behind every line break. -/
def terminatedPieces : Text → List Text
  | [] => []
  | '\r' :: '\n' :: rest => ['\r', '\n'] :: terminatedPieces rest
  | c :: rest =>
    if c = '\r' ∨ c = '\n' then [c] :: terminatedPieces rest
    else consFirst c (terminatedPieces rest)

lemma isBreakChar_iff {c : Char} : isBreakChar c ↔ c = '\r' ∨ c = '\n' := by simp [isBreakChar]

/-- A text is empty, begins with a line break, or begins with another character. -/
@[elab_as_elim]
lemma byBreaks {motive : Text → Prop} (nil : motive [])
    (lineBreak : ∀ s t, Breaks s t → motive t → motive (s ++ t))
    (char : ∀ c t, ¬ isBreakChar c → motive t → motive (c :: t)) (t : Text) : motive t := by
  induction t using pieces.induct with
  | case1 => exact nil
  | case2 rest ih => exact lineBreak _ rest (.crlf rest) ih
  | case3 c rest hne hc ih =>
    rcases hc with rfl | rfl
    · refine lineBreak ['\r'] rest (.cr fun h => ?_) ih
      cases rest with
      | nil => cases h
      | cons d rest => exact hne rest rfl (by rw [Option.some.inj h])
    · exact lineBreak ['\n'] rest (.lf rest) ih
  | case4 c rest hne hc hrest ih => exact char c rest (mt isBreakChar_iff.mp hc) ih
  | case5 c rest hne hc piece more hrest ih => exact char c rest (mt isBreakChar_iff.mp hc) ih

/-! ### Along the cases -/

section Cases

variable {s t : Text} {c : Char}

/-- A text has at least one piece. -/
lemma pieces_ne_nil (t : Text) : pieces t ≠ [] := by
  induction t using pieces.induct with
  | case1 => simp [pieces]
  | case2 rest ih => simp [pieces]
  | case3 c rest hne hc ih => simp [pieces, hc]
  | case4 c rest hne hc hrest ih => exact absurd hrest ih
  | case5 c rest hne hc piece more hrest ih => simp [pieces, hc, hrest]

/-- A CR that is a line break of its own is no half of another one. -/
lemma Breaks.ne_lf {rest : Text} (h : Breaks ['\r'] t) : t ≠ '\n' :: rest := by
  rintro rfl
  cases h with
  | cr h => exact h rfl

lemma pieces_break (h : Breaks s t) : pieces (s ++ t) = [] :: pieces t := by
  cases h with
  | crlf => rfl
  | cr h =>
    rw [List.singleton_append, pieces]
    · simp
    · exact fun rest _ => (Breaks.cr h).ne_lf
  | lf => rw [List.singleton_append, pieces] <;> simp

lemma pieces_char (hc : ¬ isBreakChar c) (t : Text) :
    pieces (c :: t) = consFirst c (pieces t) := by
  rw [isBreakChar_iff] at hc
  rw [pieces, if_neg hc]
  · cases pieces t <;> rfl
  · rintro rest rfl
    exact absurd (.inl rfl) hc

lemma terminatedPieces_break (h : Breaks s t) :
    terminatedPieces (s ++ t) = s :: terminatedPieces t := by
  cases h with
  | crlf => rfl
  | cr h =>
    rw [List.singleton_append, terminatedPieces]
    · simp
    · exact fun rest _ => (Breaks.cr h).ne_lf
  | lf => rw [List.singleton_append, terminatedPieces] <;> simp

lemma terminatedPieces_char (hc : ¬ isBreakChar c) (t : Text) :
    terminatedPieces (c :: t) = consFirst c (terminatedPieces t) := by
  rw [isBreakChar_iff] at hc
  rw [terminatedPieces, if_neg hc]
  rintro rest rfl
  exact absurd (.inl rfl) hc

lemma unifyBreaks_break (h : Breaks s t) : unifyBreaks (s ++ t) = '\n' :: unifyBreaks t := by
  cases h with
  | crlf => rfl
  | cr h =>
    rw [List.singleton_append, unifyBreaks]
    · simp
    · exact fun rest _ => (Breaks.cr h).ne_lf
  | lf => rw [List.singleton_append, unifyBreaks] <;> simp

lemma unifyBreaks_char (hc : ¬ isBreakChar c) (t : Text) :
    unifyBreaks (c :: t) = c :: unifyBreaks t := by
  rw [isBreakChar_iff, not_or] at hc
  rw [unifyBreaks, if_neg hc.1]
  rintro rest rfl
  exact absurd rfl hc.1

lemma lines_break (h : Breaks s t) : lines (s ++ t) = [] :: lines t := by
  rw [lines, pieces_break h, lines]
  cases hp : pieces t with
  | nil => exact absurd hp (pieces_ne_nil t)
  | cons piece more =>
    simp only [List.getLast?_cons_cons]
    split <;> rfl

lemma lines_char (hc : ¬ isBreakChar c) (t : Text) : lines (c :: t) = consFirst c (lines t) := by
  rw [lines, pieces_char hc, lines]
  cases hp : pieces t with
  | nil => exact absurd hp (pieces_ne_nil t)
  | cons piece more =>
    cases more with
    | nil => cases piece <;> simp [consFirst]
    | cons piece' more =>
      simp only [consFirst, List.getLast?_cons_cons]
      split <;> rfl

lemma dropBreaks_break (h : Breaks s t) : dropBreaks s = [] := by cases h <;> rfl

lemma dropBreaks_char (hc : ¬ isBreakChar c) (t : Text) :
    dropBreaks (c :: t) = c :: dropBreaks t := by
  have hlast : [c].dropWhile isBreakChar = [c] := by simp [hc]
  rw [dropBreaks, List.reverse_cons, List.dropWhile_append, hlast]
  split
  · next hnil => simp [dropBreaks, List.isEmpty_iff.mp hnil]
  · simp [dropBreaks]

end Cases

/-! ### The same lines -/

/-- Nothing is lost of a text that is cut. -/
lemma flatten_terminatedPieces (t : Text) : (terminatedPieces t).flatten = t := by
  induction t using byBreaks with
  | nil => rfl
  | lineBreak s t h ih => rw [terminatedPieces_break h, List.flatten_cons, ih]
  | char c t hc ih =>
    rw [terminatedPieces_char hc]
    cases hp : terminatedPieces t <;> simp_all [consFirst]

/-- Without their breaks the terminated pieces are the lines. -/
lemma map_dropBreaks_terminatedPieces (t : Text) :
    (terminatedPieces t).map dropBreaks = lines t := by
  induction t using byBreaks with
  | nil => rfl
  | lineBreak s t h ih =>
    rw [terminatedPieces_break h, lines_break h, List.map_cons, ih, dropBreaks_break h]
  | char c t hc ih =>
    rw [terminatedPieces_char hc, lines_char hc, ← ih]
    cases terminatedPieces t with
    | nil => exact congrArg (· :: []) (dropBreaks_char hc [])
    | cons piece more => exact congrArg (· :: more.map dropBreaks) (dropBreaks_char hc piece)

/-- Writing every line break as LF keeps the lines. -/
lemma lines_unifyBreaks (t : Text) : lines (unifyBreaks t) = lines t := by
  induction t using byBreaks with
  | nil => rfl
  | lineBreak s t h ih =>
    have hlf : lines ('\n' :: unifyBreaks t) = [] :: lines (unifyBreaks t) := lines_break (.lf _)
    rw [unifyBreaks_break h, hlf, lines_break h, ih]
  | char c t hc ih => rw [unifyBreaks_char hc, lines_char hc, lines_char hc, ih]

/-! ### Lines as they are written -/

section Written

variable {s t line : Text} {ls : List Text}

/-- Each of the three separators breaks a line, CR only when no LF comes next. -/
lemma breaks_of_mem (hs : s ∈ lineBreaks) (ht : s = ['\r'] → '\n' ∉ t) : Breaks s t := by
  simp only [lineBreaks, List.mem_cons, List.not_mem_nil, or_false] at hs
  rcases hs with rfl | rfl | rfl
  · exact .crlf t
  · exact .cr fun h => ht rfl (List.mem_of_mem_head? h)
  · exact .lf t

/-- A line with its separator is the first line. -/
lemma lines_append (hline : ∀ c ∈ line, ¬ isBreakChar c) (h : Breaks s t) :
    lines (line ++ (s ++ t)) = line :: lines t := by
  induction line with
  | nil => exact lines_break h
  | cons c line ih =>
    obtain ⟨hc, hline⟩ := List.forall_mem_cons.mp hline
    rw [List.cons_append, lines_char hc, ih hline]
    rfl

lemma lines_of_forall_not (hline : ∀ c ∈ line, ¬ isBreakChar c) (hne : line ≠ []) :
    lines line = [line] := by
  induction line with
  | nil => exact absurd rfl hne
  | cons c line ih =>
    obtain ⟨hc, hline⟩ := List.forall_mem_cons.mp hline
    rw [lines_char hc]
    cases line with
    | nil => rfl
    | cons d line =>
      rw [ih hline (List.cons_ne_nil d line)]
      rfl

/-- Lines that each end in the same break, and then more. -/
lemma lines_flatMap_append (hs : s ∈ lineBreaks) (hls : ∀ l ∈ ls, ∀ c ∈ l, ¬ isBreakChar c)
    (hline : ∀ c ∈ line, ¬ isBreakChar c) :
    lines (ls.flatMap (· ++ s) ++ line) = ls ++ lines line := by
  induction ls with
  | nil => rfl
  | cons l ls ih =>
    obtain ⟨hl, hls⟩ := List.forall_mem_cons.mp hls
    have hbreaks : Breaks s (ls.flatMap (· ++ s) ++ line) := by
      refine breaks_of_mem hs ?_
      rintro rfl hmem
      rcases List.mem_append.mp hmem with hmem | hmem
      · obtain ⟨l', hl', hmem⟩ := List.mem_flatMap.mp hmem
        have hlf : '\n' ∈ l' := by simpa using hmem
        exact hls l' hl' '\n' hlf rfl
      · exact hline '\n' hmem rfl
    rw [List.flatMap_cons, List.append_assoc, List.append_assoc, lines_append hl hbreaks, ih hls]
    rfl

/-- The last break is not needed if there is something before it on its line. -/
lemma lines_of_append_eq (hs : s ∈ lineBreaks) (hls : ∀ l ∈ ls, ∀ c ∈ l, ¬ isBreakChar c)
    (ht : t ++ s = ls.flatMap (· ++ s)) (hlast : ls.getLast? ≠ some []) : lines t = ls := by
  rcases List.eq_nil_or_concat' ls with rfl | ⟨ls, line, rfl⟩
  · obtain ⟨-, rfl⟩ := List.append_eq_nil_iff.mp ht
    exact absurd hs (by decide)
  · obtain ⟨hls, hline⟩ := List.forall_mem_append.mp hls
    have hline : ∀ c ∈ line, ¬ isBreakChar c := hline line List.mem_cons_self
    have hne : line ≠ [] := by
      rintro rfl
      exact hlast List.getLast?_concat
    obtain rfl : t = ls.flatMap (· ++ s) ++ line := by
      simpa [List.flatMap_append, ← List.append_assoc] using ht
    rw [lines_flatMap_append hs hls hline, lines_of_forall_not hline hne]

end Written

end Text

/-! ### Files -/

namespace Content

/-- The bytes of the mark. -/
def markBytes : ByteArray := ⟨#[0xEF, 0xBB, 0xBF]⟩

lemma decode_toUTF8 (t : Text) : decode (Text.asString t).toUTF8 = .ok t := by
  rw [decode, String.fromUTF8?, String.toUTF8, dif_pos (Text.asString t).isValidUTF8]
  exact congrArg Except.ok (String.toList_ofList)

/-- A text whose bytes end before a mark does is empty. -/
lemma eq_nil_of_isUnfinishedMark {bytes : ByteArray} {t : Text} (h : isUnfinishedMark bytes)
    (ht : decode bytes = .ok t) : t = [] := by
  obtain ⟨⟨bs⟩⟩ := bytes
  rw [isUnfinishedMark, Bool.and_eq_true, decide_eq_true_eq] at h
  obtain ⟨hsize, hprefix⟩ := h
  match bs with
  | [] => exact (Except.ok.inj ht).symm
  | [a] =>
    obtain rfl : a = 0xEF := by simpa using hprefix
    cases ht
  | [a, b] =>
    obtain ⟨rfl, rfl⟩ : a = 0xEF ∧ b = 0xBB := by simpa using hprefix
    cases ht
  | a :: b :: c :: bs =>
    have hlen : bs.length + 3 < 3 := hsize
    omega

/-- Encoded text is decoded to itself with its breaks unified and without the mark. -/
lemma document_toUTF8 (t : Text) :
    document (.bytes (Text.asString t).toUTF8) = .ok (Text.unifyBreaks (dropMark t)) := by
  rw [document]
  split
  · next h =>
    rw [eq_nil_of_isUnfinishedMark h (decode_toUTF8 t)]
    rfl
  · rw [decode_toUTF8]
    rfl

lemma markBytes_append (t : Text) :
    markBytes ++ (Text.asString t).toUTF8 = (Text.asString (mark :: t)).toUTF8 := by
  have hmark : [mark].utf8Encode = markBytes := rfl
  show markBytes ++ (String.ofList t).toByteArray = (String.ofList (mark :: t)).toByteArray
  rw [String.toByteArray_ofList, String.toByteArray_ofList, List.utf8Encode_cons, hmark]

/-- Of a file that holds a text, with a mark or without one, that text is parsed. -/
lemma document_of_bytes {t : Text} (ht : t.head? ≠ some mark) {bytes : ByteArray}
    (h : bytes = (Text.asString t).toUTF8 ∨ bytes = markBytes ++ (Text.asString t).toUTF8) :
    document (.bytes bytes) = .ok (Text.unifyBreaks t) := by
  rcases h with rfl | rfl
  · rw [document_toUTF8]
    cases t with
    | nil => rfl
    | cons c t => rw [dropMark, if_neg fun hc => ht (congrArg some hc)]
  · rw [markBytes_append, document_toUTF8, dropMark, if_pos rfl]

end Content

/-! ### Sources -/

/-- The features of a document have the place it was read from, and are else the same. -/
lemma KeywordTable.map_file_parse (k : KeywordTable) (resolver : Option Resolver)
    (document : Source) (source source' : Text) :
    (k.parse resolver document source).outcome.features.map ({ · with file := source' }) =
      (k.parse resolver document source').outcome.features := by
  simp only [parse, Reading.parsing, List.mapIdx_eq_zipIdx_map, List.map_map]
  rfl

/-- A document has the lines it was written with, whatever break ends them; it has the same lines
when it is cut behind its breaks and when they are unified; and a file that holds it is parsed like
the document itself. -/
theorem Source.toLines_eq :
    (∀ s ∈ Text.lineBreaks, ∀ ls : List Text, (∀ l ∈ ls, ∀ c ∈ l, ¬ Text.isBreakChar c) →
      (Source.document (ls.flatMap (· ++ s))).toLines = ls ∧
        ∀ t, t ++ s = ls.flatMap (· ++ s) → ls.getLast? ≠ some [] →
          (Source.document t).toLines = ls) ∧
    (∀ t : Text, (Text.terminatedPieces t).flatten = t ∧
      (Source.document t).toLines = (Source.lines (Text.terminatedPieces t)).toLines ∧
      (Source.document t).toLines = (Source.document (Text.unifyBreaks t)).toLines) ∧
    ∀ (k : KeywordTable) (resolver : Option Resolver) (tree : Tree) (p : Path) (t source : Text)
      (bytes : ByteArray), t.head? ≠ some Content.mark →
      bytes = (Text.asString t).toUTF8 ∨
        bytes = Content.markBytes ++ (Text.asString t).toUTF8 →
      tree.content p.toText = .ok (.bytes bytes) →
      let outcome := (k.parse resolver (.document t) source).outcome
      ∃ outcome', (Suite.parseFiles k tree resolver [p]).1 = .ok [outcome'] ∧
        outcome'.features = outcome.features.map ({ · with file := p.toText }) ∧
        outcome'.rejection = outcome.rejection := by
  refine ⟨fun s hs ls hls => ⟨?lines, fun t ht hlast => ?unended⟩,
    fun t => ⟨Text.flatten_terminatedPieces t, ?pieces, ?unified⟩, ?file⟩
  case lines =>
    have hlines := Text.lines_flatMap_append hs hls (List.forall_mem_nil _)
    have hnil : Text.lines [] = [] := rfl
    rwa [List.append_nil, hnil, List.append_nil] at hlines
  case unended => exact Text.lines_of_append_eq hs hls ht hlast
  case pieces => exact (Text.map_dropBreaks_terminatedPieces t).symm
  case unified => exact (Text.lines_unifyBreaks t).symm
  case file =>
    intro k resolver tree p t source bytes ht hbytes hcontent outcome
    -- a file is decoded with its breaks unified, which leaves its lines what they were
    have hread : tree.readDocument p = .ok (Text.unifyBreaks t) := by
      rw [Tree.readDocument, Tree.readAs, hcontent]
      exact congrArg (Except.mapError _) (Content.document_of_bytes ht hbytes)
    have hlines : (Source.document (Text.unifyBreaks t)).toLines = (Source.document t).toLines :=
      Text.lines_unifyBreaks t
    refine ⟨(k.parse resolver (.document (Text.unifyBreaks t)) p.toText).outcome, ?_, ?_, ?_⟩
    · rw [Suite.parseFiles, hread]
      rfl
    · rw [k.map_file_parse, KeywordTable.parse, hlines]
      rfl
    · rw [KeywordTable.parse_rejection, hlines]
      rfl

/-- Lines with and without a last break, some of them empty and one with separators that are no
breaks; and a file with a mark and breaks of all kinds. -/
theorem Source.toLines_eq_mixed :
    let ls : List Text := ["", "a\x0b\u2028", "", "b"]
    let t : Text := "\n\rFeature: a\r\n\rScenario: b\x0c"
    let tree : Tree :=
      ⟨[(["f"], .file (.bytes (Content.markBytes ++ (Text.asString t).toUTF8)))]⟩
    let k := KeywordTable.ofEntry "en" Dataset.english
    let outcome := (k.parse none (.document t) []).outcome
    (Source.document "\ra\x0b\u2028\r\rb\r").toLines = ls ∧
      (Source.document "\ra\x0b\u2028\r\rb").toLines = ls ∧
      Text.terminatedPieces t =
        (["\n", "\r", "Feature: a\r\n", "\r", "Scenario: b\x0c"] : List Text) ∧
      (Source.document t).toLines = (Source.lines (Text.terminatedPieces t)).toLines ∧
      outcome.rejection.map (·.message) = some ("Unexpected end of file" : Text) ∧
      ∃ outcome', (Suite.parseFiles k tree none [.ofText "f"]).1 = .ok [outcome'] ∧
        outcome'.features =
          outcome.features.map ({ · with file := (Path.ofText "f").toText }) ∧
        outcome'.rejection = outcome.rejection := by
  intro ls t tree k outcome
  obtain ⟨hlines, hpieces, hfile⟩ := Source.toLines_eq
  have hls : ∀ l ∈ ls, ∀ c ∈ l, ¬ Text.isBreakChar c := by simp [ls, Text.isBreakChar]
  obtain ⟨hended, hunended⟩ := hlines ['\r'] (by decide) ls hls
  obtain ⟨-, hcut, -⟩ := hpieces t
  exact ⟨hended, hunended _ (by decide) (by decide), by decide, hcut,
    by decide +kernel, hfile k none tree (.ofText "f") t [] _ (by decide) (.inr rfl) rfl⟩

end FeatureDocs
