import FeatureDocs.Files.Change
import Mathlib.Data.List.Induction
import Mathlib.Tactic.Common

/-!
# Paths in file trees

The text of a path is taken apart into the parts of the path again (`Path.locate_toText`), so what a
path leads to is found by following its parts, and what is further below by following the names
that lead there (`Path.locate_below`). In a well-formed tree everything is found under its own names
(`Tree.WellFormed.follow_below`).
-/

namespace FeatureDocs

/-! ### Texts between separators -/

namespace Text

/-- No part of a split text holds the separator. -/
lemma not_mem_of_mem_splitOn {sep : Char} {t part : Text} (h : part ∈ splitOn sep t) :
    sep ∉ part := by
  induction t generalizing part with
  | nil =>
    obtain rfl : part = [] := by simpa [splitOn] using h
    simp
  | cons c t ih =>
    rw [splitOn, List.splitOn_cons_eq_if_modifyHead] at h
    split at h
    · rcases List.mem_cons.mp h with rfl | h
      · simp
      · exact ih h
    · next hc =>
      cases hs : splitOn sep t with
      | nil => exact absurd hs (splitOn_ne_nil sep t)
      | cons first others =>
        rw [splitOn] at hs
        rw [hs, List.modifyHead_cons] at h
        rcases List.mem_cons.mp h with rfl | h
        · have hfirst : sep ∉ first := ih (by rw [splitOn, hs]; exact List.mem_cons_self)
          have hne : ¬ sep = c := fun heq => hc (beq_iff_eq.mpr heq.symm)
          simp [hne, hfirst]
        · exact ih (by rw [splitOn, hs]; exact List.mem_cons_of_mem first h)

lemma splitOn_cons_self (sep : Char) (t : Text) :
    splitOn sep (sep :: t) = [] :: splitOn sep t := by
  simp [splitOn, List.splitOn_cons_eq_if_modifyHead]

/-- The characters of a joined text other than the separator are those of its parts. -/
lemma mem_join_iff {c sep : Char} {parts : List Text} (h : c ≠ sep) :
    c ∈ join [sep] parts ↔ ∃ part ∈ parts, c ∈ part := by
  induction parts with
  | nil => simp [join]
  | cons part parts ih =>
    cases parts with
    | nil => simp [join]
    | cons other parts =>
      rw [join_cons _ _ (List.cons_ne_nil _ _), List.mem_append, List.mem_append, ih]
      simp [h]

lemma getLast?_join {sep : Text} {parts : List Text} (h : ∀ part ∈ parts, part ≠ []) :
    (join sep parts).getLast? = parts.getLast?.bind List.getLast? := by
  induction parts with
  | nil => rfl
  | cons part parts ih =>
    cases parts with
    | nil => simp [join]
    | cons other parts =>
      have hjoin := ih fun p hp => h p (List.mem_cons_of_mem part hp)
      have hlast : ((other :: parts).getLast?.bind List.getLast?).isSome := by
        rw [List.getLast?_eq_some_getLast (List.cons_ne_nil other parts), Option.bind_some,
          List.getLast?_isSome]
        exact h _ (List.mem_cons_of_mem part (List.getLast_mem _))
      rw [join_cons _ _ (List.cons_ne_nil _ _), List.getLast?_append, hjoin,
        Option.or_of_isSome hlast, List.getLast?_cons_cons]

end Text

/-! ### Paths and their texts -/

namespace Path

/-- A path whose text can be taken apart into its parts again. -/
structure IsClean (p : Path) : Prop where
  root : p.root = [] ∨ p.root = "/" ∨ p.root = "//"
  parts : ∀ part ∈ p.parts, part ≠ [] ∧ '/' ∉ part

/-- A path that was read from a text has neither empty parts nor slashes in its parts. -/
lemma isClean_ofText (t : Text) : (ofText t).IsClean where
  root := by
    show rootOf t = [] ∨ rootOf t = "/" ∨ rootOf t = "//"
    unfold rootOf
    split
    · exact .inl rfl
    · exact .inr (.inr rfl)
    · exact .inr (.inl rfl)
  parts part hpart := by
    obtain ⟨hsplit, hne⟩ := List.mem_filter.mp hpart
    exact ⟨(of_decide_eq_true hne).1, Text.not_mem_of_mem_splitOn hsplit⟩

/-- The path of what is further below. -/
def below (p : Path) (names : List Text) : Path := { p with parts := p.parts ++ names }

@[simp] lemma below_nil (p : Path) : p.below [] = p := by simp [below]

lemma child_below (p : Path) (names : List Text) (name : Text) :
    (p.below names).child name = p.below (names ++ [name]) := by
  simp [below, child]

lemma IsClean.below {p : Path} (h : p.IsClean) {names : List Text}
    (hnames : ∀ name ∈ names, name ≠ [] ∧ '/' ∉ name) : (p.below names).IsClean where
  root := h.root
  parts := List.forall_mem_append.mpr ⟨h.parts, hnames⟩

lemma parts_eq_of_splitOn {p : Path} (h : p.IsClean) (hne : p.parts ≠ []) :
    Text.splitOn '/' (Text.join "/" p.parts) = p.parts :=
  List.splitOn_intercalate '/' (fun part hpart => (h.parts part hpart).2) hne

/-- The text of a path is taken apart into its parts. -/
lemma partsOf_toText {p : Path} (h : p.IsClean) (hne : p.parts ≠ []) :
    Tree.partsOf p.toText = p.parts := by
  have htext : p.toText = p.root ++ Text.join "/" p.parts := by simp [toText, hne]
  have hlast : p.toText.getLast? ≠ some '/' := by
    obtain ⟨hne', hslash⟩ := h.parts _ (List.getLast_mem hne)
    rw [htext, List.getLast?_append, Text.getLast?_join fun part hpart => (h.parts part hpart).1,
      List.getLast?_eq_some_getLast hne, Option.bind_some, List.getLast?_eq_some_getLast hne',
      Option.some_or]
    intro heq
    exact hslash (Option.some.inj heq ▸ List.getLast_mem hne')
  have hsplit : (Text.splitOn '/' p.toText).filter (· ≠ []) = p.parts.filter (· ≠ []) := by
    rw [htext]
    rcases h.root with hroot | hroot | hroot <;> rw [hroot]
    · rw [List.nil_append, parts_eq_of_splitOn h hne]
    · show (Text.splitOn '/' ('/' :: Text.join "/" p.parts)).filter _ = _
      rw [Text.splitOn_cons_self, parts_eq_of_splitOn h hne]
      rfl
    · show (Text.splitOn '/' ('/' :: '/' :: Text.join "/" p.parts)).filter _ = _
      rw [Text.splitOn_cons_self, Text.splitOn_cons_self, parts_eq_of_splitOn h hne]
      rfl
  rw [Tree.partsOf, if_neg hlast, List.append_nil, hsplit, List.filter_eq_self]
  intro part hpart
  exact decide_eq_true (h.parts part hpart).1

/-- The names that a path starts from. -/
def start (p : Path) : List Text := if p.root = [] then [] else [Tree.rootName]

lemma start_below (p : Path) (names : List Text) : (p.below names).start = p.start := rfl

lemma parts_below (p : Path) (names : List Text) : (p.below names).parts = p.parts ++ names := rfl

end Path

/-! ### Following names -/

namespace Tree

variable {t : Tree} {names names' : List Text} {n : Node}

/-- The text of a path that can be looked for. -/
structure IsPathText (path : Text) : Prop where
  null : '\x00' ∉ path
  ne_nil : path ≠ []
  fits : Text.byteSize path ≤ pathLimit

/-- The names that the search for the text of a path starts from. -/
def startOf (path : Text) : List Text := if path.head? = some '/' then [rootName] else []

/-- A path that the system takes is looked up by following its parts from where it starts. -/
lemma IsPathText.locate_eq {path : Text} (h : IsPathText path) (t : Tree) :
    t.locate path = t.follow (startOf path) (partsOf path) := by
  rw [locate, if_neg h.null, if_neg h.ne_nil, if_neg (Nat.not_lt.mpr h.fits), startOf]

/-- Only a path that can be looked for leads anywhere. -/
lemma isPathText_of_locate {path : Text} (hmalformed : t.locate path ≠ .malformed)
    (hmissing : t.locate path ≠ .missing) (hlong : t.locate path ≠ .tooLong) :
    IsPathText path := by
  rw [locate] at hmalformed hmissing hlong
  split at hmalformed
  · exact absurd rfl hmalformed
  · next hnull =>
    rw [if_neg hnull] at hmissing hlong
    split at hmissing
    · exact absurd rfl hmissing
    · next hempty =>
      rw [if_neg hempty] at hlong
      split at hlong
      · exact absurd rfl hlong
      · next hfits => exact ⟨hnull, hempty, Nat.not_lt.mp hfits⟩

lemma isPathText_of_found {path : Text} (h : t.locate path = .found names n) :
    IsPathText path := by
  apply isPathText_of_locate <;> rw [h] <;> simp

/-- Where a path begins there is a directory. -/
lemma node?_start (t : Tree) (p : Path) : t.node? p.start = some .directory := by
  unfold Path.start
  split <;> rfl

lemma follow_nil (h : t.node? names = some n) : t.follow names [] = .found names n := by
  rw [follow, h]

/-- Behind what was found the search goes on. -/
lemma follow_append {parts : List Text} (h : t.follow names parts = .found names' n)
    (more : List Text) : t.follow names (parts ++ more) = t.follow names' more := by
  induction parts generalizing names with
  | nil =>
    rw [follow] at h
    split at h
    · obtain ⟨rfl, -⟩ := Place.found.inj h
      rfl
    · cases h
  | cons part parts ih =>
    rw [List.cons_append, follow]
    rw [follow] at h
    cases hnode : t.node? names with
    | none =>
      rw [hnode] at h
      cases h
    | some m =>
      rw [hnode] at h
      cases m with
      | file c => cases h
      | sink => cases h
      | directory =>
        simp only at h ⊢
        split
        · next hpart => exact ih (by rwa [if_pos hpart] at h)
        · next hpart =>
          rw [if_neg hpart] at h
          split
          · next habove => exact ih (by rwa [if_pos habove] at h)
          · next habove =>
            rw [if_neg habove] at h
            split
            · next hlong =>
              rw [if_pos hlong] at h
              cases h
            · next hlong => exact ih (by rwa [if_neg hlong] at h)

end Tree

namespace Path

/-- A clean path is never written as the empty text. -/
lemma toText_ne_nil {p : Path} (h : p.IsClean) : p.toText ≠ [] := by
  unfold toText
  split
  · decide
  · next hempty =>
    intro hnil
    obtain ⟨hroot, hjoin⟩ := List.append_eq_nil_iff.mp hnil
    have hparts : p.parts ≠ [] := fun hparts => hempty ⟨hroot, hparts⟩
    have hsplit := parts_eq_of_splitOn h hparts
    rw [hjoin] at hsplit
    exact (h.parts [] (by rw [← hsplit]; decide)).1 rfl

/-- The text of a path begins with a slash if the path starts from the root. -/
lemma startOf_toText {p : Path} (h : p.IsClean) :
    Tree.startOf p.toText = p.start := by
  have hhead : p.toText.head? = some '/' ↔ p.root ≠ [] := by
    rcases h.root with hroot | hroot | hroot
    · rw [toText, hroot]
      cases hparts : p.parts with
      | nil => decide
      | cons part parts =>
        obtain ⟨hne, hslash⟩ := h.parts part (by simp [hparts])
        obtain ⟨c, part, rfl⟩ := List.exists_cons_of_ne_nil hne
        have hc : c ≠ '/' := fun hc => hslash (by simp [hc])
        cases parts <;> simp [Text.join, List.intercalate_cons_cons, hc]
    all_goals
      rw [toText, hroot]
      simp
  unfold Tree.startOf start
  by_cases hroot : p.root = [] <;> simp [hhead, hroot]

/-- The text of a path leads where its parts lead. -/
lemma locate_toText {p : Path} (h : p.IsClean) (hp : Tree.IsPathText p.toText) (t : Tree) :
    t.locate p.toText = t.follow p.start p.parts := by
  rw [hp.locate_eq, startOf_toText h]
  by_cases hparts : p.parts = []
  · have htext : Tree.partsOf p.toText = [Tree.hereName] := by
      rw [toText, hparts]
      rcases h.root with hroot | hroot | hroot <;> rw [hroot] <;> rfl
    rw [htext, hparts]
    simp [Tree.follow, Tree.node?_start]
  · rw [partsOf_toText h hparts]

/-- A written path holds a null character when one of its parts does. -/
lemma null_mem_toText {p : Path} (h : p.IsClean) :
    '\x00' ∈ p.toText ↔ ∃ part ∈ p.parts, '\x00' ∈ part := by
  by_cases hempty : p.root = [] ∧ p.parts = []
  · rw [toText, if_pos hempty, hempty.2]
    decide
  · have hroot : '\x00' ∉ p.root := by
      rcases h.root with hroot | hroot | hroot <;> rw [hroot] <;> decide
    rw [toText, if_neg hempty, List.mem_append, or_iff_right hroot]
    exact Text.mem_join_iff (by decide)

end Path

namespace Path

/-- A path that is not too long. -/
def Fits (p : Path) : Prop := Text.byteSize p.toText ≤ Tree.pathLimit

instance (p : Path) : Decidable p.Fits := inferInstanceAs (Decidable (_ ≤ _))

end Path

/-! ### Names -/

/-- What a file or a directory may be called. -/
structure IsName (name : Text) : Prop where
  ne_nil : name ≠ []
  ne_here : name ≠ Tree.hereName
  ne_above : name ≠ Tree.aboveName
  slash : '/' ∉ name
  null : '\x00' ∉ name
  short : Text.byteSize name ≤ Tree.partLimit

lemma IsName.ne_root {name : Text} (h : IsName name) : name ≠ Tree.rootName := by
  rintro rfl
  exact h.slash (by decide)

/-- From what was found the names lead on, as long as the text of the path is not too long. -/
lemma Path.IsClean.locate_below {p : Path} (h : p.IsClean) {t : Tree} {names rest : List Text}
    {n : Node} (hp : t.locate p.toText = .found names n) (hrest : ∀ name ∈ rest, IsName name) :
    t.locate (p.below rest).toText =
      if (p.below rest).Fits then t.follow names rest else .tooLong := by
  have hclean : (p.below rest).IsClean := h.below fun name hname =>
    ⟨(hrest name hname).ne_nil, (hrest name hname).slash⟩
  have htext := Tree.isPathText_of_found hp
  have hnull : '\x00' ∉ (p.below rest).toText := by
    rw [null_mem_toText hclean]
    rintro ⟨part, hpart, hmem⟩
    rcases List.mem_append.mp hpart with hpart | hpart
    · exact htext.null ((null_mem_toText h).mpr ⟨part, hpart, hmem⟩)
    · exact (hrest part hpart).null hmem
  split
  · next hfits =>
    rw [locate_toText h htext] at hp
    rw [locate_toText hclean ⟨hnull, toText_ne_nil hclean, hfits⟩, start_below, parts_below,
      Tree.follow_append hp]
  · next hlong =>
    rw [Tree.locate, if_neg hnull, if_neg (toText_ne_nil hclean), if_pos (Nat.not_le.mp hlong)]

/-! ### Well-formed trees -/

namespace Tree

/-- What is below the directory with the given names, and the names that lead there from it. -/
def Below (t : Tree) (names rest : List Text) (n : Node) : Prop :=
  (names ++ rest, n) ∈ t.nodes ∧ below? names (names ++ rest) = some rest

/-- What lies below a directory: its names are in front, and the first further name is neither the
root nor the parent. -/
lemma below?_eq_some_iff {names ns rest : List Text} :
    below? names ns = some rest ↔
      ns = names ++ rest ∧ ∃ name ∈ rest.head?, name ≠ aboveName ∧ name ≠ rootName := by
  constructor
  · intro h
    rw [below?] at h
    split at h
    · next hbelow =>
      obtain ⟨hbegins, hhead⟩ := hbelow
      obtain ⟨rest', rfl⟩ := List.isPrefixOf_iff_prefix.mp hbegins
      rw [List.drop_left] at h hhead
      cases h
      exact ⟨rfl, by simpa [Option.any_eq_true] using hhead⟩
    · cases h
  · rintro ⟨rfl, hhead⟩
    rw [below?, List.drop_left, if_pos]
    exact ⟨List.isPrefixOf_iff_prefix.mpr (List.prefix_append _ _),
      by simpa [Option.any_eq_true] using hhead⟩

lemma Below.ne_nil {t : Tree} {names rest : List Text} {n : Node} (h : t.Below names rest n) :
    rest ≠ [] := by
  rintro rfl
  obtain ⟨-, name, hhead, -⟩ := below?_eq_some_iff.mp h.2
  cases hhead

/-- A tree in which everything has a name, is in a directory, and has just one entry. -/
structure WellFormed (t : Tree) : Prop where
  nodup : (Mapping.keys t.nodes).Nodup
  named : ∀ {ns n}, (ns, n) ∈ t.nodes → ∃ above name, ns = above ++ [name] ∧ IsName name
  /-- The top, what is above it and the root need no entry. -/
  inside : ∀ {above name n}, (above ++ [name], n) ∈ t.nodes →
    above.all (· = aboveName) ∨ above = [rootName] ∨ (above, .directory) ∈ t.nodes
  /-- The directory of devices is always there. -/
  noDevice : ∀ {ns n}, (ns, n) ∈ t.nodes → ns ≠ devices
  noSink : ∀ {ns n}, (ns, n) ∈ t.nodes → n ≠ .sink

namespace WellFormed

variable {t : Tree} {names rest : List Text} {name : Text} {n : Node}

/-- What has an entry is found there. -/
lemma found (h : t.WellFormed) (hmem : (names, n) ∈ t.nodes) : t.node? names = some n := by
  obtain ⟨above, name, rfl, hname⟩ := h.named hmem
  have hall : ¬ (above ++ [name]).all (· = aboveName) := by simp [hname.ne_above]
  have hroot : above ++ [name] ≠ [rootName] := by
    intro heq
    obtain ⟨-, hlast⟩ := List.append_inj' (heq.trans (List.nil_append _).symm) rfl
    exact hname.ne_root (List.singleton_inj.mp hlast)
  have hsink : above ++ [name] ≠ sinkNames := by
    intro heq
    obtain ⟨rfl, -⟩ := List.append_inj' heq rfl
    rcases h.inside hmem with hall | hsingle | hmem'
    · cases hall
    · cases hsingle
    · exact h.noDevice hmem' rfl
  rw [node?, if_neg (by simp [hall, hroot, h.noDevice hmem]), if_neg hsink]
  exact Mapping.get?_of_mem h.nodup hmem

/-- The names that lead below a directory are those of directories, but for the last one. -/
lemma below_of_append (h : t.WellFormed) (hb : t.Below names (rest ++ [name]) n)
    (hne : rest ≠ []) : t.Below names rest .directory := by
  obtain ⟨hmem, hbelow⟩ := hb
  obtain ⟨-, first, hfirst, habove, hroot⟩ := below?_eq_some_iff.mp hbelow
  rw [List.head?_append, Option.or_of_isSome (List.isSome_head?.mpr hne)] at hfirst
  have hbelow' : below? names (names ++ rest) = some rest :=
    below?_eq_some_iff.mpr ⟨rfl, first, hfirst, habove, hroot⟩
  have hin : first ∈ names ++ rest := List.mem_append_right _ (List.mem_of_mem_head? hfirst)
  rw [← List.append_assoc] at hmem
  rcases h.inside hmem with hall | hsingle | hmem'
  · exact absurd (by simpa using List.all_eq_true.mp hall first hin) habove
  · rw [hsingle] at hin
    exact absurd (List.mem_singleton.mp hin) hroot
  · exact ⟨hmem', hbelow'⟩

/-- Every name on the way to something below a directory is one that a file can have. -/
lemma isName_of_below (h : t.WellFormed) (hb : t.Below names rest n) :
    ∀ part ∈ rest, IsName part := by
  induction rest using List.reverseRecOn generalizing n with
  | nil => simp
  | append_singleton rest name ih =>
    have hname : IsName name := by
      obtain ⟨above, name', heq, hname'⟩ := h.named hb.1
      rw [← List.append_assoc] at heq
      obtain ⟨-, hlast⟩ := List.append_inj' heq rfl
      rwa [List.singleton_inj.mp hlast]
    intro part hpart
    rcases List.mem_append.mp hpart with hpart | hpart
    · exact ih (h.below_of_append hb (List.ne_nil_of_mem hpart)) part hpart
    · rwa [List.mem_singleton.mp hpart]

/-- One name leads into a directory. -/
lemma follow_name (hdir : t.node? names = some .directory) (hname : IsName name)
    (hn : t.node? (names ++ [name]) = some n) :
    t.follow names [name] = .found (names ++ [name]) n := by
  rw [follow, hdir]
  simp only
  rw [if_neg hname.ne_here, if_neg hname.ne_above, if_neg (Nat.not_lt.mpr hname.short),
    follow_nil hn]

/-- The names of what is below a directory lead there. -/
lemma follow_below (h : t.WellFormed) (hdir : t.node? names = some .directory)
    (hb : t.Below names rest n) : t.follow names rest = .found (names ++ rest) n := by
  induction rest using List.reverseRecOn generalizing n with
  | nil => exact absurd rfl hb.ne_nil
  | append_singleton rest name ih =>
    have hname : IsName name := h.isName_of_below hb name (by simp)
    have hn := h.found hb.1
    rw [← List.append_assoc] at hn
    rw [← List.append_assoc]
    by_cases hne : rest = []
    · subst hne
      rw [List.append_nil] at hn ⊢
      exact follow_name hdir hname hn
    · have hdir' := h.below_of_append hb hne
      rw [follow_append (ih hdir')]
      exact follow_name (h.found hdir'.1) hname hn

/-- What is directly inside of what is below is below, too. -/
lemma below_append_iff (h : t.WellFormed) (hrest : rest = [] ∨ t.Below names rest .directory) :
    t.Below names (rest ++ [name]) n ↔ (names ++ rest ++ [name], n) ∈ t.nodes := by
  rw [Below, ← List.append_assoc, and_iff_left_iff_imp]
  intro hmem
  rw [List.append_assoc, below?_eq_some_iff]
  refine ⟨rfl, ?_⟩
  rcases hrest with rfl | hrest
  · obtain ⟨above, name', heq, hname⟩ := h.named hmem
    obtain ⟨-, hlast⟩ := List.append_inj' heq rfl
    rw [← List.singleton_inj.mp hlast] at hname
    exact ⟨name, rfl, hname.ne_above, hname.ne_root⟩
  · obtain ⟨-, first, hfirst, hne⟩ := below?_eq_some_iff.mp hrest.2
    refine ⟨first, ?_, hne⟩
    rw [List.head?_append, hfirst]
    rfl

end WellFormed

/-! ### Looking below a directory -/

section Looking

variable {t : Tree} {p : Path} {names rest : List Text} {n : Node}

/-- What the parts of a path lead to is a node of the tree. -/
lemma node?_of_follow {parts names' : List Text} (h : t.follow names' parts = .found names n) :
    t.node? names = some n := by
  have hnil : t.follow names [] = .found names n := by
    rw [← follow_append h, List.append_nil, h]
  rw [follow] at hnil
  split at hnil
  · next hnode => rw [hnode, (Place.found.inj hnil).2]
  · cases hnil

lemma node?_of_locate {path : Text} (h : t.locate path = .found names n) :
    t.node? names = some n := by
  rw [(isPathText_of_found h).locate_eq] at h
  exact node?_of_follow h

/-- The entries of a directory are the nodes that are one name longer. -/
lemma mem_entriesIn {name : Text} :
    (name, n) ∈ t.entriesIn names ↔ (names ++ [name], n) ∈ t.nodes := by
  simp only [entriesIn, List.mem_filterMap, Prod.exists]
  constructor
  · rintro ⟨ns, m, hmem, h⟩
    split at h
    · next hnames =>
      obtain ⟨last, hlast, heq⟩ := Option.map_eq_some_iff.mp h
      obtain ⟨rfl, rfl⟩ := Prod.mk.inj heq
      obtain ⟨above, rfl⟩ := List.getLast?_eq_some_iff.mp hlast
      rwa [← hnames, List.dropLast_concat]
    · cases h
  · intro hmem
    exact ⟨names ++ [name], n, hmem, by simp⟩

/-- The path of something below a directory leads there, if it is not too long. -/
lemma locate_of_below (h : t.WellFormed) (hclean : p.IsClean)
    (hp : t.locate p.toText = .found names .directory) (hb : t.Below names rest n) :
    t.locate (p.below rest).toText =
      if (p.below rest).Fits then .found (names ++ rest) n else .tooLong := by
  rw [hclean.locate_below hp (h.isName_of_below hb), h.follow_below (node?_of_locate hp) hb]

lemma fits_of_locate (hp : t.locate p.toText = .found names n) : p.Fits :=
  (isPathText_of_found hp).fits

/-- The directories below a directory, and it itself. -/
lemma mem_directories_iff (hp : t.locate p.toText = .found names .directory) {q : Path} :
    q ∈ t.directories p ↔
      ∃ rest, (rest = [] ∨ t.Below names rest .directory) ∧ q = p.below rest := by
  rw [directories, hp]
  simp only [List.mem_cons, List.mem_filterMap, Prod.exists]
  constructor
  · rintro (rfl | ⟨ns, n, hmem, hq⟩)
    · exact ⟨[], .inl rfl, (Path.below_nil q).symm⟩
    · cases n with
      | file c => cases hq
      | sink => cases hq
      | directory =>
        obtain ⟨rest, hbelow, rfl⟩ := Option.map_eq_some_iff.mp hq
        obtain ⟨rfl, -⟩ := below?_eq_some_iff.mp hbelow
        exact ⟨rest, .inr ⟨hmem, hbelow⟩, rfl⟩
  · rintro ⟨rest, rfl | ⟨hmem, hbelow⟩, rfl⟩
    · exact .inl (Path.below_nil p)
    · exact .inr ⟨_, _, hmem, by rw [hbelow]; rfl⟩

/-- What is inside of a directory below. -/
lemma entries_of_below (h : t.WellFormed) (hclean : p.IsClean)
    (hp : t.locate p.toText = .found names .directory)
    (hrest : rest = [] ∨ t.Below names rest .directory) :
    t.entries (p.below rest) =
      if (p.below rest).Fits then .ok (t.entriesIn (names ++ rest))
      else .error (.tooLong (p.below rest).toText) := by
  rcases hrest with rfl | hb
  · rw [Path.below_nil, entries, hp, if_pos (fits_of_locate hp), List.append_nil]
  · rw [entries, locate_of_below h hclean hp hb]
    by_cases hfits : (p.below rest).Fits
    · rw [if_pos hfits, if_pos hfits]
    · rw [if_neg hfits, if_neg hfits]

end Looking

end Tree

end FeatureDocs
