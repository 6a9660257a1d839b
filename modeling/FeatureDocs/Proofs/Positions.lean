import FeatureDocs.Keyword.Packaged
import FeatureDocs.Proofs.Acceptance

/-!
# Where things stand

Everything that a feature consists of stands on a line of its own, which begins with its keyword;
and the lines of a block stand together. A derivation consumes these lines from first to last
(`Grammar.Carries`), while the feature keeps its scenarios apart from its outlines. The numbers of
the lines are enough to get the order back (`KeywordTable.parse_positions`).
-/

namespace FeatureDocs

open Grammar

/-! ### Nodes -/

/-- What can stand on a line of its own in a feature. -/
inductive FeatureNode.Kind
  | feature
  | block (role : Role)
  | step (kind : StepKind)

/-- Something on a line of its own, with its name or its text. -/
structure FeatureNode where
  kind : FeatureNode.Kind
  text : Text
  line : Int

/-- The node may stand on a line with the given text: that begins with its keyword, and what is
behind it belongs to the node, except for a background. -/
def FeatureNode.Fits (k : KeywordTable) (n : FeatureNode) (line : Text) : Prop :=
  match n.kind with
  | .feature =>
    k.Matches (Text.trim line) .feature ∧ n.text = k.strip (Text.trim line) .feature
  | .block .background => k.Matches (Text.trim line) .background ∧ n.text = []
  | .block .scenario =>
    k.Matches (Text.trim line) .scenario ∧ n.text = k.strip (Text.trim line) .scenario
  | .block .outline =>
    k.Matches (Text.trim line) .outline ∧ n.text = k.strip (Text.trim line) .outline
  | .step kind => StepText k kind line n.text

/-- The number of the node is that of a line where it may stand. -/
def FeatureNode.StandsIn (k : KeywordTable) (ls : List Text) (n : FeatureNode) : Prop :=
  ∃ i : Fin ls.length, n.line = i + 1 ∧ n.Fits k (ls.get i)

/-- The node of a step. -/
def Step.node (s : Step) : FeatureNode := ⟨.step s.kind, s.text, s.line⟩

namespace Grammar.Part

/-- What a block is for. -/
def role : Part → Role
  | .background _ => .background
  | .scenario _ => .scenario
  | .outline _ => .outline

/-- The name and the steps of a block. -/
def toScenario : Part → Scenario
  | .background s => s
  | .scenario s => s
  | .outline o => o.toScenario

/-- The head of a block. -/
def head (p : Part) : FeatureNode := ⟨.block p.role, p.toScenario.name, p.toScenario.line⟩

/-- The head of a block and its steps. -/
def nodes (p : Part) : List FeatureNode := p.head :: p.toScenario.steps.map Step.node

/-- All of a block stands before all of another one. -/
def Before (p q : Part) : Prop := ∀ m ∈ p.nodes, ∀ n ∈ q.nodes, m.line < n.line

/-- Two blocks do not overlap. -/
def Apart (p q : Part) : Prop := p.Before q ∨ q.Before p

lemma Apart.symm {p q : Part} (h : p.Apart q) : q.Apart p := Or.symm h

lemma head_mem (p : Part) : p.head ∈ p.nodes := List.mem_cons_self

end Grammar.Part

/-- A scenario or an outline is a block of its feature. -/
def Member.toPart : Member → Part
  | .scenario s => .scenario s
  | .outline o => .outline o

lemma Member.line_toPart (m : Member) : m.toPart.head.line = m.toScenario.line := by
  cases m <;> rfl

namespace Feature

/-- The blocks of a feature, those of the list of outlines last. -/
def parts (f : Feature) : List Part :=
  f.background.toList.map (fun b => .background b.toScenario) ++
    (f.scenarios ++ f.outlines.map Member.outline).map Member.toPart

/-- The head of a feature. -/
def head (f : Feature) : FeatureNode := ⟨.feature, f.name, f.line⟩

/-- The head of a feature, and its blocks. -/
def nodes (f : Feature) : List FeatureNode := f.head :: f.parts.flatMap Part.nodes

/-- The lines of a feature stand in order: its head first, in a block the head and then the steps,
and no block among the lines of another one. Outlines stand in the list of outlines only. -/
structure Arranged (f : Feature) : Prop where
  background : ∀ b ∈ f.background, b.isOutline = false
  plain : ∀ m ∈ f.scenarios, m.isOutline = false
  below : ∀ p ∈ f.parts, ∀ n ∈ p.nodes, f.line < n.line
  within : ∀ p ∈ f.parts, (p.nodes.map FeatureNode.line).Pairwise (· < ·)
  apart : f.parts.Pairwise Part.Apart
  scenarios : (f.scenarios.map (·.toScenario.line)).Pairwise (· < ·)
  outlines : (f.outlines.map (·.line)).Pairwise (· < ·)

end Feature

/-! ### The lines that carry nodes -/

/-- The lines up to the rest carry some nodes in order. -/
inductive Grammar.Carries (k : KeywordTable) : List Line → List FeatureNode → List Line → Prop
  | stop {rest : List Line} : Carries k rest [] rest
  | skip {l : Line} {input rest : List Line} {ns : List FeatureNode} (h : Carries k input ns rest) :
      Carries k (l :: input) ns rest
  | node {l : Line} {input rest : List Line} {n : FeatureNode} {ns : List FeatureNode}
      (hline : n.line = l.number) (hfits : n.Fits k l.text) (h : Carries k input ns rest) :
      Carries k (l :: input) (n :: ns) rest

/-- Lines in the order of their numbers. -/
def Rising (ls : List Line) : Prop := ls.Pairwise fun l m => l.number < m.number

variable {k : KeywordTable}

namespace Grammar

variable {input mid rest : List Line} {ns ms : List FeatureNode}

namespace Carries

/-- What two stretches of lines carry one behind the other is carried by both together. -/
lemma trans (h : Carries k input ns mid) (h' : Carries k mid ms rest) :
    Carries k input (ns ++ ms) rest := by
  induction h with
  | stop => exact h'
  | skip _ ih => exact .skip (ih h')
  | node hline hfits _ ih => exact .node hline hfits (ih h')

lemma suffix (h : Carries k input ns rest) : rest <:+ input := by
  induction h with
  | stop => exact List.suffix_refl _
  | skip _ ih => exact ih.trans (List.suffix_cons _ _)
  | node _ _ _ ih => exact ih.trans (List.suffix_cons _ _)

lemma sublist (h : Carries k input ns rest) : rest.Sublist input := h.suffix.sublist

/-- Everything that is carried stands in one of the lines and fits its text. -/
lemma exists_line (h : Carries k input ns rest) :
    ∀ n ∈ ns, ∃ l ∈ input, n.line = l.number ∧ n.Fits k l.text := by
  induction h with
  | stop => simp
  | skip _ ih =>
    intro n hn
    obtain ⟨l, hl, hstands⟩ := ih n hn
    exact ⟨l, List.mem_cons_of_mem _ hl, hstands⟩
  | @node l _ _ m _ hline hfits _ ih =>
    intro n hn
    rcases List.mem_cons.mp hn with rfl | hn
    · exact ⟨l, List.mem_cons_self, hline, hfits⟩
    · obtain ⟨l', hl', hstands⟩ := ih n hn
      exact ⟨l', List.mem_cons_of_mem _ hl', hstands⟩

/-- The nodes stand in order, and before the rest. -/
lemma rising (h : Carries k input ns rest) (hinput : Rising input) :
    (ns.map FeatureNode.line).Pairwise (· < ·) ∧ ∀ n ∈ ns, ∀ l ∈ rest, n.line < l.number := by
  induction h with
  | stop => simp
  | skip _ ih => exact ih hinput.of_cons
  | @node l input _ m ns hline _ h ih =>
    obtain ⟨hns, hrest⟩ := ih hinput.of_cons
    have hl : ∀ l' ∈ input, l.number < l'.number := fun _ => List.rel_of_pairwise_cons hinput
    constructor
    · rw [List.map_cons]
      refine hns.cons fun j hj => ?_
      obtain ⟨n, hn, rfl⟩ := List.mem_map.mp hj
      obtain ⟨l', hl', hn', -⟩ := h.exists_line n hn
      rw [hline, hn']
      exact_mod_cast hl l' hl'
    · intro n hn l' hl'
      rcases List.mem_cons.mp hn with rfl | hn
      · rw [hline]
        exact_mod_cast hl l' (h.sublist.subset hl')
      · exact hrest n hn l' hl'

end Carries

/-! ### What a derivation carries -/

lemma Gap.carries (h : Gap input rest) : Carries k input [] rest := by
  induction h with
  | stop => exact .stop
  | blank _ _ ih => exact .skip ih

lemma Slot.carries {α : Type} {Item : List Line → α → List Line → Prop} {begins : Text → Prop}
    {v : Option α} (hitem : ∀ {start rest v}, Item start v rest → Carries k start [] rest)
    (h : Slot Item begins input v rest) : Carries k input [] rest := by
  cases h with
  | absent hgap _ => exact hgap.carries
  | present hgap h => exact hgap.carries.trans (hitem h)

lemma Table.carries {t : DataTable} (h : Table input t rest) : Carries k input [] rest := by
  cases h with
  | table _ h =>
    apply Carries.skip
    induction h with
    | stop => exact .stop
    | row _ _ _ ih => exact .skip ih

lemma DocString.carries {t : Text} (h : DocString input t rest) : Carries k input [] rest := by
  cases h with
  | docString _ _ _ h =>
    apply Carries.skip
    induction h with
    | close => exact .skip .stop
    | line _ _ _ ih => exact .skip ih

lemma StepLines.carries {kind : StepKind} {s : Step} (h : StepLines k kind input s rest) :
    Carries k input [s.node] rest := by
  cases h with
  | step hl ht hd hgap =>
    refine .node rfl hl ?_
    exact (ht.carries Table.carries).trans ((hd.carries DocString.carries).trans hgap.carries)

lemma SectionLines.carries {kind : StepKind} {steps : List Step}
    (h : SectionLines k kind input steps rest) : Carries k input (steps.map Step.node) rest := by
  induction h with
  | last hs _ => exact hs.carries
  | more hs _ _ ih => exact hs.carries.trans ih

lemma Sections.carries {steps : List Step} (h : Sections k input steps rest) :
    Carries k input (steps.map Step.node) rest := by
  cases h with
  | sections hgap hc ha ho =>
    rw [List.append_assoc, List.map_append, List.map_append]
    exact hgap.carries.trans (hc.carries.trans (ha.carries.trans ho.carries))

lemma Examples.carries {t : DataTable} (h : Examples k input t rest) :
    Carries k input [] rest := by
  cases h with
  | examples _ hgap h => exact .skip (hgap.carries.trans h.carries)

/-- A block carries its header and its steps, in this order. -/
lemma BlockLines.carries {p : Part} (h : BlockLines k input p rest) :
    Carries k input p.nodes rest := by
  cases h with
  | background hl hgap h _ => exact .node rfl ⟨hl, rfl⟩ (hgap.carries.trans h.carries)
  | outline _ hl hs ht =>
    refine .node rfl ⟨hl, rfl⟩ ?_
    have h := hs.carries.trans ht.carries
    rwa [List.append_nil] at h
  | scenario _ _ hl hs => exact .node rfl ⟨hl, rfl⟩ hs.carries

lemma Description.carries {texts : List Text} (h : Description k input texts rest) :
    Carries k input [] rest := by
  induction h with
  | stop => exact .stop
  | line hgap _ _ _ _ _ ih => exact hgap.carries.trans (.skip ih)

lemma Parts.carries {parts : List Part} (h : Parts k input parts rest) :
    Carries k input (parts.flatMap Part.nodes) rest := by
  induction h with
  | stop => exact .stop
  | part hgap _ hp _ ih =>
    rw [List.flatMap_cons]
    exact hgap.carries.trans (hp.carries.trans ih)

/-- Blocks, sorted by what they are for. -/
lemma perm_parts (parts : List Part) :
    ((backgrounds parts).map Part.background ++
      ((scenarios parts).map Part.scenario ++ (outlines parts).map Part.outline)).Perm parts := by
  induction parts with
  | nil => exact .nil
  | cons p parts ih =>
    cases p with
    | background s => exact ih.cons _
    | scenario s => exact List.perm_middle.trans (ih.cons _)
    | outline o =>
      refine List.Perm.trans ?_ (ih.cons _)
      rw [← List.append_assoc, ← List.append_assoc]
      exact List.perm_middle

/-- The blocks of a feature in the order of their lines. -/
structure InOrder (f : Feature) (parts : List Part) : Prop where
  perm : f.parts.Perm parts
  background : f.background = (backgrounds parts).head?.map .scenario
  scenarios : f.scenarios = (scenarios parts).map .scenario
  outlines : f.outlines = outlines parts

/-- A feature carries its header and its blocks in the order of the document. -/
lemma FeatureLines.carries {f : Feature} (h : FeatureLines k input f rest) :
    ∃ parts, InOrder f parts ∧ Carries k input (f.head :: parts.flatMap Part.nodes) rest := by
  cases h with
  | @feature l _ a b _ description parts hl hd hp hone hgap _ =>
    have hhead : (backgrounds parts).head?.toList = backgrounds parts := by
      rcases hb : backgrounds parts with _ | ⟨s, _ | ⟨s', more⟩⟩
      · rfl
      · rfl
      · simp [hb] at hone
    refine ⟨parts, ⟨?_, rfl, rfl, rfl⟩, .node rfl ⟨hl, rfl⟩ ?_⟩
    · have hperm := perm_parts parts
      rw [← hhead] at hperm
      rw [Feature.parts, Option.toList_map, List.map_map, List.map_append, List.map_map,
        List.map_map]
      exact hperm
    · have h := hd.carries.trans (hp.carries.trans hgap.carries)
      rwa [List.append_nil] at h

/-- Blocks stand in order if all their nodes do. -/
lemma Part.before_of_rising {parts : List Part}
    (h : ((parts.flatMap Part.nodes).map FeatureNode.line).Pairwise (· < ·)) :
    (∀ p ∈ parts, (p.nodes.map FeatureNode.line).Pairwise (· < ·)) ∧
      parts.Pairwise Part.Before := by
  rw [List.pairwise_map, List.pairwise_flatMap] at h
  obtain ⟨hwithin, hbefore⟩ := h
  exact ⟨fun p hp => List.pairwise_map.mpr (hwithin p hp), hbefore⟩

/-- Blocks of one sort are in order if all blocks are. -/
lemma rising_filterMap {α : Type} {line : α → Int} {pick : Part → Option α} {parts : List Part}
    (h : parts.Pairwise Part.Before) (hpick : ∀ p, ∀ a ∈ pick p, line a = p.head.line) :
    ((parts.filterMap pick).map line).Pairwise (· < ·) := by
  rw [List.pairwise_map, List.pairwise_filterMap]
  refine h.imp fun {p q} hpq a ha b hb => ?_
  rw [hpick p a ha, hpick q b hb]
  exact hpq _ p.head_mem _ q.head_mem

/-- Blocks in rising lines are arranged: each list of the feature rises, and no two blocks share a
line. -/
lemma InOrder.arranged {f : Feature} {parts : List Part} (h : InOrder f parts)
    (hrising : ((f.head :: parts.flatMap Part.nodes).map FeatureNode.line).Pairwise (· < ·)) :
    f.Arranged := by
  rw [List.map_cons, List.pairwise_cons] at hrising
  obtain ⟨hhead, hparts⟩ := hrising
  obtain ⟨hwithin, hbefore⟩ := Part.before_of_rising hparts
  constructor
  case background =>
    intro b hb
    rw [h.background] at hb
    obtain ⟨s, -, rfl⟩ := Option.map_eq_some_iff.mp hb
    rfl
  case plain =>
    rw [h.scenarios]
    exact List.forall_mem_map.mpr fun _ _ => rfl
  case below =>
    intro p hp n hn
    refine hhead n.line (List.mem_map_of_mem (List.mem_flatMap.mpr ⟨p, ?_, hn⟩))
    exact h.perm.mem_iff.mp hp
  case within =>
    intro p hp
    exact hwithin p (h.perm.mem_iff.mp hp)
  case apart => exact (h.perm.pairwise_iff Part.Apart.symm).mpr (hbefore.imp Or.inl)
  case scenarios =>
    rw [h.scenarios, List.map_map]
    refine rising_filterMap hbefore fun p s hs => ?_
    cases p <;> cases hs
    rfl
  case outlines =>
    rw [h.outlines]
    refine rising_filterMap hbefore fun p o ho => ?_
    cases p <;> cases ho
    rfl

/-- The nodes of a feature are in order, each on one of the given lines. -/
structure PlacedIn (k : KeywordTable) (input : List Line) (f : Feature) : Prop where
  stands : ∀ n ∈ f.nodes, ∃ l ∈ input, n.line = l.number ∧ n.Fits k l.text
  arranged : f.Arranged
  distinct : (f.nodes.map FeatureNode.line).Nodup

lemma PlacedIn.mono {f : Feature} (h : PlacedIn k mid f) (hmid : mid.Sublist input) :
    PlacedIn k input f := by
  refine ⟨?_, h.arranged, h.distinct⟩
  intro n hn
  obtain ⟨l, hl, hstands⟩ := h.stands n hn
  exact ⟨l, hmid.subset hl, hstands⟩

/-- A feature of rising lines is in place, and nothing of it stands behind the lines it was read
from. -/
lemma FeatureLines.placed {f : Feature} (h : FeatureLines k input f rest) (hinput : Rising input) :
    PlacedIn k input f ∧ (∀ n ∈ f.nodes, ∀ l ∈ rest, n.line < l.number) ∧ rest.Sublist input := by
  obtain ⟨parts, horder, hcarries⟩ := h.carries
  obtain ⟨hrising, hbefore⟩ := hcarries.rising hinput
  have hperm : f.nodes.Perm (f.head :: parts.flatMap Part.nodes) :=
    (horder.perm.flatMap_right Part.nodes).cons f.head
  refine ⟨⟨?_, horder.arranged hrising, ?_⟩, ?_, hcarries.sublist⟩
  · intro n hn
    exact hcarries.exists_line n (hperm.mem_iff.mp hn)
  · exact (hperm.map FeatureNode.line).nodup_iff.mpr (hrising.imp Int.ne_of_lt)
  · intro n hn
    exact hbefore n (hperm.mem_iff.mp hn)

/-- All of a feature stands before all of the next ones. -/
lemma Passage.placed {features : List Feature} (h : Passage k input features rest)
    (hinput : Rising input) :
    (∀ f ∈ features, PlacedIn k input f) ∧
      features.Pairwise fun f g => ∀ m ∈ f.nodes, ∀ n ∈ g.nodes, m.line < n.line := by
  induction h with
  | stop => simp
  | @feature l input next mid rest f features hgap hf _ ih =>
    have hstart : (l :: next).Sublist input := (hgap.carries (k := k)).sublist
    obtain ⟨hplaced, hbefore, hmid⟩ := hf.placed (hinput.sublist hstart)
    obtain ⟨hfeatures, hturn⟩ := ih (hinput.sublist (hmid.trans hstart))
    constructor
    · intro g hg
      rcases List.mem_cons.mp hg with rfl | hg
      · exact hplaced.mono hstart
      · exact (hfeatures g hg).mono (hmid.trans hstart)
    · refine hturn.cons fun g hg m hm n hn => ?_
      obtain ⟨l', hl', hline, -⟩ := (hfeatures g hg).stands n hn
      rw [hline]
      exact hbefore m hm l' hl'

end Grammar

/-! ### Scenarios and outlines -/

lemma Feature.members_perm (f : Feature) :
    f.members.Perm (f.scenarios ++ f.outlines.map Member.outline) :=
  List.mergeSort_perm _ _

lemma Feature.members_sublist (f : Feature) :
    ((f.scenarios ++ f.outlines.map Member.outline).map Member.toPart).Sublist f.parts :=
  List.sublist_append_right _ _

lemma Grammar.Part.Apart.line_ne {p q : Part} (h : p.Apart q) : p.head.line ≠ q.head.line := by
  rcases h with h | h
  · exact Int.ne_of_lt (h _ p.head_mem _ q.head_mem)
  · exact Int.ne_of_gt (h _ q.head_mem _ p.head_mem)

/-- Sorting scenarios and outlines by their lines gives them back in order. -/
lemma Feature.Arranged.members {f : Feature} (h : f.Arranged) :
    f.members.Pairwise fun a b => a.toScenario.line < b.toScenario.line := by
  have htrans : ∀ a b c : Member, decide (a.toScenario.line ≤ b.toScenario.line) →
      decide (b.toScenario.line ≤ c.toScenario.line) →
      decide (a.toScenario.line ≤ c.toScenario.line) := by
    intro a b c hab hbc
    simp only [decide_eq_true_eq] at hab hbc ⊢
    exact Int.le_trans hab hbc
  have htotal : ∀ a b : Member, (decide (a.toScenario.line ≤ b.toScenario.line) ||
      decide (b.toScenario.line ≤ a.toScenario.line)) := by
    intro a b
    simp only [Bool.or_eq_true, decide_eq_true_eq]
    exact Int.le_total _ _
  have hle : f.members.Pairwise fun a b => a.toScenario.line ≤ b.toScenario.line :=
    (List.pairwise_mergeSort htrans htotal _).imp of_decide_eq_true
  have hne : f.members.Pairwise fun a b => a.toScenario.line ≠ b.toScenario.line := by
    refine (f.members_perm.pairwise_iff Ne.symm).mpr ?_
    have hapart := h.apart.sublist f.members_sublist
    refine (List.pairwise_map.mp hapart).imp fun {a b} hab => ?_
    rw [← a.line_toPart, ← b.line_toPart]
    exact hab.line_ne
  exact hle.imp₂ (fun a b hab hne => Int.lt_iff_le_and_ne.mpr ⟨hab, hne⟩) hne

/-! ### Documents -/

/-- Lines that are numbered one by one rise. -/
lemma rising_numberFrom (n : Nat) (ls : List Text) :
    Rising (numberFrom n ls) ∧ ∀ l ∈ numberFrom n ls, n < l.number := by
  induction ls generalizing n with
  | nil => simp [Rising]
  | cons text ls ih =>
    obtain ⟨hrising, hbelow⟩ := ih (n + 1)
    constructor
    · exact hrising.cons hbelow
    · intro l hl
      rcases List.mem_cons.mp hl with rfl | hl
      · exact Nat.lt_succ_self n
      · exact Nat.lt_of_succ_lt (hbelow l hl)

lemma exists_of_mem_numberFrom {n : Nat} {ls : List Text} {l : Line} (h : l ∈ numberFrom n ls) :
    ∃ i : Fin ls.length, l = ⟨n + i + 1, ls.get i⟩ := by
  induction ls generalizing n with
  | nil => simp at h
  | cons text ls ih =>
    rcases List.mem_cons.mp h with rfl | h
    · exact ⟨⟨0, Nat.succ_pos _⟩, rfl⟩
    · obtain ⟨i, rfl⟩ := ih h
      refine ⟨i.succ, ?_⟩
      rw [Fin.val_succ, Nat.add_right_comm n 1, Nat.add_assoc n]
      rfl

/-- The features stand on the given lines: every node on a line that it fits and no other node
stands on, what belongs to one feature in order and before the next feature. So the lines of the
scenarios and the outlines of a feature say in which order they stand. -/
structure InPlace (k : KeywordTable) (ls : List Text) (features : List Feature) : Prop where
  stands : ∀ f ∈ features, ∀ n ∈ f.nodes, n.StandsIn k ls
  arranged : ∀ f ∈ features, f.Arranged
  distinct : ((features.flatMap Feature.nodes).map FeatureNode.line).Nodup
  inTurn : features.Pairwise fun f g => ∀ n ∈ f.nodes, n.line < g.line
  members : ∀ f ∈ features,
    f.members.Perm (f.scenarios ++ f.outlines.map Member.outline) ∧
      f.members.Pairwise fun a b => a.toScenario.line < b.toScenario.line

/-- Finding implementations moves nothing. -/
lemma InPlace.of_unbound {ls : List Text} {features : List Feature}
    (h : InPlace k ls (features.map Feature.unbound)) : InPlace k ls features := by
  constructor
  case stands =>
    intro f hf
    exact h.stands f.unbound (List.mem_map_of_mem hf)
  case arranged =>
    intro f hf
    have harranged := h.arranged f.unbound (List.mem_map_of_mem hf)
    exact ⟨harranged.background, harranged.plain, harranged.below, harranged.within,
      harranged.apart, harranged.scenarios, harranged.outlines⟩
  case distinct =>
    have hdistinct := h.distinct
    rwa [List.flatMap_map] at hdistinct
  case inTurn => exact List.pairwise_map.mp h.inTurn
  case members =>
    intro f hf
    exact h.members f.unbound (List.mem_map_of_mem hf)

lemma KeywordTable.read_inPlace (k : KeywordTable) (ls : List Text) :
    InPlace k ls (k.read ls).features := by
  obtain ⟨rest, hpassage⟩ := k.read_passage ls
  obtain ⟨hplaced, hturn⟩ := hpassage.placed (rising_numberFrom 0 ls).1
  constructor
  case stands =>
    intro f hf n hn
    obtain ⟨l, hl, hline, hfits⟩ := (hplaced f hf).stands n hn
    obtain ⟨i, rfl⟩ := exists_of_mem_numberFrom hl
    refine ⟨i, ?_, hfits⟩
    rw [hline, Nat.zero_add]
    exact Int.natCast_succ i
  case arranged =>
    intro f hf
    exact (hplaced f hf).arranged
  case distinct =>
    rw [List.Nodup, List.pairwise_map, List.pairwise_flatMap]
    constructor
    · intro f hf
      exact List.pairwise_map.mp (hplaced f hf).distinct
    · exact hturn.imp fun {f g} hfg m hm n hn => Int.ne_of_lt (hfg m hm n hn)
  case inTurn => exact hturn.imp fun {f g} hfg n hn => hfg n hn g.head List.mem_cons_self
  case members =>
    intro f hf
    exact ⟨f.members_perm, (hplaced f hf).arranged.members⟩

/-- The features of a document, be it accepted or rejected, stand on its lines. -/
theorem KeywordTable.parse_positions (k : KeywordTable) (resolver : Option Resolver)
    (document : Source) (source : Text) :
    InPlace k document.toLines (k.parse resolver document source).outcome.features := by
  apply InPlace.of_unbound
  rw [k.parse_unbound]
  exact k.read_inPlace document.toLines

/-- An outline stands before a scenario, and the feature after them is rejected. -/
theorem KeywordTable.parse_positions_english :
    let k := ofEntry "en" Dataset.english
    let document : Source := .lines
      ["Feature: A", "Scenario Outline: B", "Given c", "When d", "Then e", "Examples:", "|f|", "",
        "Scenario: G", "Given h", "And i", "When j", "Then k", "Feature: L", "Scenario: M", "n"]
    let outcome := (k.parse none document []).outcome
    outcome.rejection = some (.fault (.expectedStep .context) 16) ∧
      outcome.features.map (fun f => f.nodes.map FeatureNode.line) =
        [[1, 9, 10, 11, 12, 13, 2, 3, 4, 5]] ∧
      InPlace k document.toLines outcome.features := by
  intro k document outcome
  have hrejection : outcome.rejection = some (.fault (.expectedStep .context) 16) := by rfl
  have hlines : outcome.features.map (fun f => f.nodes.map FeatureNode.line) =
      [[1, 9, 10, 11, 12, 13, 2, 3, 4, 5]] := by rfl
  exact ⟨hrejection, hlines, parse_positions k none document []⟩

end FeatureDocs
