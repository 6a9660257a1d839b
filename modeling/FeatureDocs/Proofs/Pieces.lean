import FeatureDocs.Proofs.Positions
import FeatureDocs.Proofs.Unbroken
import Mathlib.Data.List.Infix

/-!
# Where the texts of a feature come from

Every text that is read is a part of one line. Only a doc string may take several lines: it has the
texts of neighbouring lines behind their indentation, joined by line breaks. So features that are
read from unbroken lines have unbroken texts, and each line of a doc string is one line of the
document (`KeywordTable.parse_pieces`).
-/

namespace FeatureDocs

/-! ### The texts of a feature -/

/-- A text of a feature. -/
inductive Piece
  | text (t : Text)
  | docString (t : Text)
  deriving DecidableEq

/-- The cells of a table. -/
def DataTable.pieces (t : DataTable) : List Piece := (t.header ++ t.rows.flatten).map .text

/-- The text of a step and those attached to it. -/
def Step.pieces (s : Step) : List Piece :=
  .text s.text :: s.table.toList.flatMap DataTable.pieces ++ s.docString.toList.map .docString

/-- The name of a scenario and the texts of its steps. -/
def Scenario.pieces (s : Scenario) : List Piece := .text s.name :: s.steps.flatMap Step.pieces

/-- The texts of a block. -/
def Grammar.Part.pieces : Grammar.Part → List Piece
  | .background s => s.pieces
  | .scenario s => s.pieces
  | .outline o => o.toScenario.pieces ++ o.examples.toList.flatMap DataTable.pieces

/-- All texts of a feature. -/
def Feature.pieces (f : Feature) : List Piece :=
  .text f.name :: f.description.map .text ++
    (f.background.toList ++ (f.scenarios ++ f.outlines.map Member.outline)).flatMap
      fun m => m.toPart.pieces

namespace Piece

/-- A piece of some lines: a part of one of them, or for a doc string all that stands behind an
indentation in some neighbouring ones. -/
inductive DrawnFrom (ls : List Text) : Piece → Prop
  | text {l t : Text} (hl : l ∈ ls) (ht : t <:+: l) : DrawnFrom ls (.text t)
  | docString {indentation : Text} {body : List Text}
      (h : body.map (indentation ++ ·) <:+: ls) : DrawnFrom ls (.docString (Text.join "\n" body))

/-- A piece that is not broken, or a doc string each of whose lines stands behind an indentation on
a line of its own. A doc string without lines is empty. -/
def LineByLine (ls : List Text) : Piece → Prop
  | .text t => t.Unbroken
  | .docString t => t = [] ∨
      ∃ indentation, (Text.splitOn '\n' t).map (indentation ++ ·) <:+: ls

/-- Lines that are unbroken are not divided in a doc string. -/
lemma DrawnFrom.lineByLine {ls : List Text} {p : Piece} (h : p.DrawnFrom ls)
    (hls : ∀ l ∈ ls, l.Unbroken) : p.LineByLine ls := by
  cases h with
  | text hl ht => exact (hls _ hl).of_part ht
  | @docString indentation body h =>
    rcases eq_or_ne body [] with rfl | hne
    · exact .inl rfl
    · have hbody : ∀ t ∈ body, '\n' ∉ t := by
        intro t ht hmem
        have hl := hls (indentation ++ t) (h.subset (List.mem_map_of_mem ht))
        exact hl '\n' (List.mem_append_right _ hmem) rfl
      have hsplit : Text.splitOn '\n' (Text.join "\n" body) = body :=
        List.splitOn_intercalate '\n' hbody hne
      refine .inr ⟨indentation, ?_⟩
      rwa [hsplit]

end Piece

/-! ### Parts of a line -/

namespace Text

lemma trim_part (t : Text) : trim t <:+: t := by
  obtain ⟨p, q, -, -, ht⟩ := eq_append_trim t
  exact ⟨p, q, by rw [List.append_assoc, ← ht]⟩

lemma part_of_mem_join {sep part : Text} {parts : List Text} (h : part ∈ parts) :
    part <:+: join sep parts := by
  induction parts with
  | nil => cases h
  | cons first more ih =>
    rcases eq_or_ne more [] with rfl | hmore
    · obtain rfl := List.mem_singleton.mp h
      rw [join, List.intercalate_singleton]
    · rw [join_cons _ _ hmore]
      rcases List.mem_cons.mp h with rfl | h
      · rw [List.append_assoc]
        exact (List.prefix_append _ _).isInfix
      · exact (ih h).trans (List.suffix_append _ _).isInfix

lemma part_of_mem_splitOn {sep : Char} {t part : Text} (h : part ∈ splitOn sep t) :
    part <:+: t := by
  rw [← join_splitOn sep t]
  exact part_of_mem_join h

end Text

/-- What is behind a keyword is a part of the line. -/
lemma KeywordTable.strip_part (k : KeywordTable) (line : Text) (c : Category) :
    k.strip line c <:+: line := by
  unfold strip
  split
  · next keyword _ =>
    have hrest : (Text.trimStart line).drop keyword.length <:+ line :=
      (List.drop_suffix _ _).trans (List.dropWhile_suffix _)
    exact (Text.trim_part _).trans hrest.isInfix
  · exact List.nil_infix

/-- A cell is a part of its row. -/
lemma DataTable.cells_part {line cell : Text} (h : cell ∈ cells line) : cell <:+: line := by
  obtain ⟨piece, hpiece, rfl⟩ := List.mem_map.mp h
  have hdrop : (Text.trim line).drop 1 <:+: line :=
    (List.drop_suffix 1 _).isInfix.trans (Text.trim_part line)
  refine (Text.trim_part piece).trans ((Text.part_of_mem_splitOn hpiece).trans ?_)
  split
  · exact (List.dropLast_prefix _).isInfix.trans hdrop
  · exact hdrop

namespace Grammar

variable {k : KeywordTable} {input rest : List Line} {ls : List Text}

/-- Lines that remain of a document when some were read. -/
def Remain (ls : List Text) (input : List Line) : Prop := input.map Line.text <:+ ls

lemma Remain.mem {l : Line} (h : Remain ls (l :: input)) : l.text ∈ ls :=
  h.subset List.mem_cons_self

lemma Remain.tail {l : Line} (h : Remain ls (l :: input)) : Remain ls input :=
  (List.suffix_cons _ _).trans h

lemma Gap.remain (h : Gap input rest) (hinput : Remain ls input) : Remain ls rest := by
  induction h with
  | stop => exact hinput
  | blank _ _ ih => exact ih hinput.tail

lemma Carries.remain {ns : List FeatureNode} (h : Carries k input ns rest)
    (hinput : Remain ls input) : Remain ls rest :=
  (h.suffix.map Line.text).trans hinput

/-! ### What a derivation draws from its lines -/

/-- The pieces are drawn from some lines. -/
def Drawn (ls : List Text) (ps : List Piece) : Prop := ∀ p ∈ ps, p.DrawnFrom ls

lemma Rows.drawn {width : Nat} {rows : List (List Text)} (h : Rows width input rows rest)
    (hinput : Remain ls input) : ∀ row ∈ rows, ∀ cell ∈ row, Piece.DrawnFrom ls (.text cell) := by
  induction h with
  | stop => simp
  | row _ _ _ ih =>
    refine List.forall_mem_cons.mpr ⟨fun cell hcell => ?_, ih hinput.tail⟩
    exact .text hinput.mem (DataTable.cells_part hcell)

lemma Table.drawn {t : DataTable} (h : Table input t rest) (hinput : Remain ls input) :
    Drawn ls t.pieces := by
  cases h with
  | table _ hrows =>
    refine List.forall_mem_map.mpr (List.forall_mem_append.mpr ⟨fun cell hcell => ?_, ?_⟩)
    · exact .text hinput.mem (DataTable.cells_part hcell)
    · exact List.forall_mem_flatten.mpr (hrows.drawn hinput.tail)

/-- With their indentation, the lines of a doc string are the lines it was read from. -/
lemma Body.begins {indentation : Text} {body : List Text} (h : Body indentation input body rest) :
    body.map (indentation ++ ·) <+: input.map Line.text := by
  induction h with
  | close => exact List.nil_prefix
  | line _ hi _ ih =>
    rw [List.map_cons, List.map_cons, hi]
    exact List.cons_prefix_cons.mpr ⟨rfl, ih⟩

lemma DocString.drawn {t : Text} (h : DocString input t rest) (hinput : Remain ls input) :
    Piece.DrawnFrom ls (.docString t) := by
  cases h with
  | docString _ _ _ h => exact .docString (h.begins.isInfix.trans hinput.tail.isInfix)

lemma StepText.part {kind : StepKind} {line text : Text} (h : StepText k kind line text) :
    text <:+: line := by
  cases h with
  | primary _ => exact (k.strip_part _ _).trans (Text.trim_part line)
  | conjunction _ _ => exact (k.strip_part _ _).trans (Text.trim_part line)

/-- What is known of all items is known of one that may be missing. -/
lemma Slot.forall_mem {α : Type} {Item : List Line → α → List Line → Prop}
    {begins : Text → Prop} {v : Option α} {P : α → Prop}
    (hitem : ∀ start rest a, Item start a rest → Remain ls start → P a)
    (h : Slot Item begins input v rest) (hinput : Remain ls input) : ∀ a ∈ v, P a := by
  cases h with
  | absent => simp
  | present hgap h =>
    intro a ha
    obtain rfl := Option.mem_some_iff.mp ha
    exact hitem _ _ _ h (hgap.remain hinput)

/-- A step, its table and its doc string are drawn from the lines they were read from. -/
lemma StepLines.drawn {kind : StepKind} {s : Step} (h : StepLines k kind input s rest)
    (hinput : Remain ls input) : Drawn ls s.pieces := by
  cases h with
  | step hl ht hd _ =>
    have htable := ht.forall_mem (P := fun t => Drawn ls t.pieces)
      (fun _ _ _ => Table.drawn) hinput.tail
    have hdoc := hd.forall_mem (P := fun t => Piece.DrawnFrom ls (.docString t))
      (fun _ _ _ => DocString.drawn) ((ht.carries (k := k) Table.carries).remain hinput.tail)
    refine List.forall_mem_append.mpr ⟨List.forall_mem_cons.mpr ⟨?_, ?_⟩, ?_⟩
    · exact .text hinput.mem hl.part
    · exact List.forall_mem_flatMap.mpr fun t ht => htable t (Option.mem_toList.mp ht)
    · exact List.forall_mem_map.mpr fun t ht => hdoc t (Option.mem_toList.mp ht)

lemma SectionLines.drawn {kind : StepKind} {steps : List Step}
    (h : SectionLines k kind input steps rest) (hinput : Remain ls input) :
    Drawn ls (steps.flatMap Step.pieces) := by
  induction h with
  | last hs _ =>
    rw [List.flatMap_singleton]
    exact hs.drawn hinput
  | more hs _ _ ih =>
    rw [List.flatMap_cons]
    exact List.forall_mem_append.mpr ⟨hs.drawn hinput, ih (hs.carries.remain hinput)⟩

lemma Sections.drawn {steps : List Step} (h : Sections k input steps rest)
    (hinput : Remain ls input) : Drawn ls (steps.flatMap Step.pieces) := by
  cases h with
  | sections hgap hc ha ho =>
    have hcontext := hgap.remain hinput
    have haction := hc.carries.remain hcontext
    have houtcome := ha.carries.remain haction
    rw [List.flatMap_append, List.flatMap_append]
    refine List.forall_mem_append.mpr ⟨List.forall_mem_append.mpr ⟨?_, ?_⟩, ?_⟩
    · exact hc.drawn hcontext
    · exact ha.drawn haction
    · exact ho.drawn houtcome

lemma Examples.drawn {t : DataTable} (h : Examples k input t rest) (hinput : Remain ls input) :
    Drawn ls t.pieces := by
  cases h with
  | examples _ hgap h => exact h.drawn (hgap.remain hinput.tail)

lemma BlockLines.drawn {p : Part} (h : BlockLines k input p rest) (hinput : Remain ls input) :
    Drawn ls p.pieces := by
  have hname : ∀ {l : Line} {next : List Line} (c : Category), Remain ls (l :: next) →
      Piece.DrawnFrom ls (.text (k.strip (Text.trim l.text) c)) := fun c hl =>
    .text hl.mem ((k.strip_part _ c).trans (Text.trim_part _))
  cases h with
  | background _ hgap h _ =>
    refine List.forall_mem_cons.mpr ⟨.text hinput.mem List.nil_infix, ?_⟩
    exact h.drawn (hgap.remain hinput.tail)
  | outline _ _ hs ht =>
    refine List.forall_mem_append.mpr ⟨List.forall_mem_cons.mpr ⟨hname _ hinput, ?_⟩, ?_⟩
    · exact hs.drawn hinput.tail
    · rw [Option.toList_some, List.flatMap_singleton]
      exact ht.drawn (hs.carries.remain hinput.tail)
  | scenario _ _ _ hs =>
    exact List.forall_mem_cons.mpr ⟨hname _ hinput, hs.drawn hinput.tail⟩

lemma Description.drawn {texts : List Text} (h : Description k input texts rest)
    (hinput : Remain ls input) : ∀ t ∈ texts, Piece.DrawnFrom ls (.text t) := by
  induction h with
  | stop => simp
  | line hgap _ _ _ _ _ ih =>
    have hline := hgap.remain hinput
    exact List.forall_mem_cons.mpr ⟨.text hline.mem (Text.trim_part _), ih hline.tail⟩

lemma Parts.drawn {parts : List Part} (h : Parts k input parts rest) (hinput : Remain ls input) :
    ∀ p ∈ parts, Drawn ls p.pieces := by
  induction h with
  | stop => simp
  | part hgap _ hp _ ih =>
    have hblock := hgap.remain hinput
    exact List.forall_mem_cons.mpr ⟨hp.drawn hblock, ih (hp.carries.remain hblock)⟩

/-- A feature and all that is in it are drawn from the lines they were read from. -/
lemma FeatureLines.drawn {f : Feature} (h : FeatureLines k input f rest)
    (hinput : Remain ls input) : Drawn ls f.pieces := by
  cases h with
  | @feature l _ _ _ _ _ parts _ hd hp _ _ _ =>
    have hparts := hp.drawn (hd.carries.remain hinput.tail)
    refine List.forall_mem_append.mpr ⟨List.forall_mem_cons.mpr ⟨?_, ?_⟩, ?_⟩
    · exact .text hinput.mem ((k.strip_part _ _).trans (Text.trim_part _))
    · exact List.forall_mem_map.mpr (hd.drawn hinput.tail)
    · refine List.forall_mem_flatMap.mpr (List.forall_mem_append.mpr ⟨?_, ?_⟩)
      · -- a background has the same texts as the scenario that it is kept as
        intro m hm
        obtain ⟨s, hs, rfl⟩ := Option.map_eq_some_iff.mp (Option.mem_toList.mp hm)
        exact hparts (.background s) (mem_backgrounds.mp (List.mem_of_mem_head? hs))
      · refine List.forall_mem_append.mpr ⟨?_, ?_⟩
        · intro m hm
          obtain ⟨s, hs, rfl⟩ := List.mem_map.mp hm
          exact hparts (.scenario s) (mem_scenarios.mp hs)
        · intro m hm
          obtain ⟨o, ho, rfl⟩ := List.mem_map.mp hm
          exact hparts (.outline o) (mem_outlines.mp ho)

lemma Passage.drawn {features : List Feature} (h : Passage k input features rest)
    (hinput : Remain ls input) : ∀ f ∈ features, Drawn ls f.pieces := by
  induction h with
  | stop => simp
  | feature hgap hf _ ih =>
    have hfeature := hgap.remain hinput
    obtain ⟨parts, -, hcarries⟩ := hf.carries
    exact List.forall_mem_cons.mpr ⟨hf.drawn hfeature, ih (hcarries.remain hfeature)⟩

lemma map_text_numberFrom (n : Nat) (ls : List Text) : (numberFrom n ls).map Line.text = ls := by
  induction ls generalizing n with
  | nil => rfl
  | cons text ls ih => rw [numberFrom_cons, List.map_cons, ih]

end Grammar

/-! ### Documents -/

/-- Whatever a document is read into is drawn from its lines, also when it is rejected. -/
lemma KeywordTable.parse_drawn (k : KeywordTable) (resolver : Option Resolver) (document : Source)
    (source : Text) :
    ∀ f ∈ (k.parse resolver document source).outcome.features,
      Grammar.Drawn document.toLines f.pieces := by
  intro f hf
  obtain ⟨rest, hpassage⟩ := k.read_passage document.toLines
  have hread : f.unbound ∈ (k.read document.toLines).features := by
    rw [← k.parse_unbound resolver document source]
    exact List.mem_map_of_mem hf
  have hall : Grammar.Remain document.toLines (numberFrom 0 document.toLines) := by
    rw [Grammar.Remain, Grammar.map_text_numberFrom]
  exact hpassage.drawn hall f.unbound hread

/-- Every text that is read is a part of one line, or a doc string of neighbouring lines. If no line
is broken then no text is, and a doc string has the lines of the document that it was read from. No
line is broken in a document that is one text; in a list of lines none is if and only if all break
characters are at the ends. -/
theorem KeywordTable.parse_pieces (k : KeywordTable) (resolver : Option Resolver)
    (document : Source) (source : Text) :
    let ls := document.toLines
    let features := (k.parse resolver document source).outcome.features
    (∀ f ∈ features, ∀ p ∈ f.pieces, p.DrawnFrom ls) ∧
      ((∀ l ∈ ls, Text.Unbroken l) ↔ document.BreaksAtEnds) ∧
      (document.BreaksAtEnds → ∀ f ∈ features, ∀ p ∈ f.pieces, p.LineByLine ls) := by
  intro ls features
  refine ⟨k.parse_drawn resolver document source, document.forall_unbroken_iff, ?_⟩
  intro hends f hf p hp
  have hdrawn := k.parse_drawn resolver document source f hf p hp
  exact hdrawn.lineByLine (document.forall_unbroken_iff.mpr hends)

/-- A table, and a doc string of two lines the last of which is empty. -/
theorem KeywordTable.parse_pieces_english :
    let k := ofEntry "en" Dataset.english
    let document : Source := .lines
      ["Feature: a\r\n", " b \n\r", "Scenario: c", "Given d", "| e | f", "|||", "  \"\"\"", "  g\n",
        "  ", "  \"\"\"", "When h", "Then i"]
    let features := (k.parse none document []).outcome.features
    features.flatMap (·.pieces) =
        [.text "a", .text "b", .text "c", .text "d", .text "e", .text "f", .text "", .text "",
          .docString "g\n", .text "h", .text "i"] ∧
      document.BreaksAtEnds ∧
      (∀ f ∈ features, ∀ p ∈ f.pieces, p.DrawnFrom document.toLines) ∧
      ∀ f ∈ features, ∀ p ∈ f.pieces, p.LineByLine document.toLines := by
  intro k document features
  have hends : document.BreaksAtEnds := document.forall_unbroken_iff.mp (by decide +kernel)
  obtain ⟨hdrawn, -, hlines⟩ := parse_pieces k none document []
  exact ⟨by rfl, hends, hdrawn, hlines hends⟩

/-- A line of a list that goes on behind a break stays one line, and so does a name on it. -/
theorem KeywordTable.parse_pieces_broken :
    let k := ofEntry "en" Dataset.english
    let document : Source := .lines ["Feature: a\nb"]
    let features := (k.parse none document []).outcome.features
    document.toLines = ["Feature: a\nb"] ∧ features.map (·.name) = ["a\nb"] ∧
      (∃ l ∈ document.toLines, ¬ Text.Unbroken l) ∧ ∃ f ∈ features, ¬ f.name.Unbroken := by
  intro k document features
  have hlines : document.toLines = ["Feature: a\nb"] := by rfl
  have hnames : features.map (·.name) = ["a\nb"] := by rfl
  refine ⟨hlines, hnames, ⟨"Feature: a\nb", ?_, by decide⟩, ?_⟩
  · rw [hlines]
    exact List.mem_singleton_self _
  · have hmem : ("a\nb" : Text) ∈ features.map (·.name) := by
      rw [hnames]
      exact List.mem_singleton_self _
    obtain ⟨f, hf, hname⟩ := List.mem_map.mp hmem
    refine ⟨f, hf, ?_⟩
    rw [hname]
    decide

end FeatureDocs
