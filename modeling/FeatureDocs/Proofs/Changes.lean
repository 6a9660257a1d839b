import FeatureDocs.Proofs.Trees
import Mathlib.Data.List.DropRight

/-!
# What writing leaves behind

What was written to a path is there, unless the sink took it (`Tree.content_of_write`). Writing at
paths from the top keeps a tree well-formed (`Tree.WellFormed.write`), so every tree that is built
in this way is.
-/

namespace FeatureDocs.Tree

/-- The end of a search at which a file may be put under the given names: nothing is there, or a
file that makes way. -/
inductive Place.Takes (names : List Text) : Place → Prop
  | vacant : Takes names (.vacant names)
  | file (c : Content) : Takes names (.found names (.file c))

variable {t t' : Tree} {ns names parts : List Text} {n : Node} {path : Text} {c : Content}

/-! ### One entry more -/

/-- At the names there is nothing but, perhaps, a file. -/
def Free (t : Tree) (names : List Text) : Prop :=
  t.node? names ≠ some .directory ∧ t.node? names ≠ some .sink

/-- Where a path says that something can be put, it can be put. -/
lemma free_of_follow (h : (t.follow ns parts).Takes names) : t.Free names := by
  induction parts generalizing ns with
  | nil =>
    rw [follow] at h
    split at h
    · next hnode =>
      cases h
      simp [Free, hnode]
    · next hnode =>
      cases h
      simp [Free, hnode]
  | cons part parts ih =>
    rw [follow] at h
    split at h
    · cases h
    · cases h
    · cases h
    · split at h
      · exact ih h
      · split at h
        · exact ih h
        · split at h
          · cases h
          · exact ih h

/-- What was put is found under its names. -/
lemma node?_put_self (h : t.Free names) : (t.put names n).node? names = some n := by
  rw [node?, put, Mapping.get?_insert]
  rw [Free, node?] at h
  split at h
  · simp at h
  · next hfixed =>
    split at h
    · simp at h
    · next hsink => rw [if_neg hfixed, if_neg hsink, if_pos BEq.rfl]

lemma node?_put_of_ne (h : ns ≠ names) : (t.put names n).node? ns = t.node? ns := by
  simp [node?, put, Mapping.get?_insert, h]

/-- A search that ended where the new entry is ends there now. -/
lemma follow_put (h : (t.follow ns parts).Takes names) :
    (t.put names n).follow ns parts = .found names n := by
  have hfree := free_of_follow h
  induction parts generalizing ns with
  | nil =>
    obtain rfl : ns = names := by
      rw [follow] at h
      split at h <;> cases h <;> rfl
    exact follow_nil (node?_put_self hfree)
  | cons part parts ih =>
    rw [follow] at h
    split at h
    · cases h
    · cases h
    · cases h
    · next hnode =>
      -- a directory on the way is not what is put, since nothing that exists is replaced by it
      have hne : ns ≠ names := by
        rintro rfl
        exact hfree.1 hnode
      rw [follow, node?_put_of_ne hne, hnode]
      simp only
      split at h
      · next hhere => rw [if_pos hhere, ih h]
      · next hhere =>
        rw [if_neg hhere]
        split at h
        · next habove => rw [if_pos habove, ih h]
        · next habove =>
          rw [if_neg habove]
          split at h
          · cases h
          · next hlong => rw [if_neg hlong, ih h]

lemma isPathText_of_takes (h : (t.locate path).Takes names) : IsPathText path := by
  apply @isPathText_of_locate t <;> intro heq <;> rw [heq] at h <;> cases h

lemma locate_put (h : (t.locate path).Takes names) :
    (t.put names n).locate path = .found names n := by
  have htext := isPathText_of_takes h
  rw [htext.locate_eq] at h ⊢
  exact follow_put h

lemma free_of_locate (h : (t.locate path).Takes names) : t.Free names := by
  rw [(isPathText_of_takes h).locate_eq] at h
  exact free_of_follow h

/-! ### What was written is there -/

/-- What has been stored is at its path, or was for the sink. -/
lemma content_of_store (h : t.store path c = (t', none)) :
    t'.content path = .ok c ∨ ∃ names, t'.locate path = .found names .sink := by
  rw [store] at h
  split at h
  · next names c' hlocate =>
    obtain rfl := (Prod.mk.inj h).1
    left
    rw [content, locate_put (hlocate ▸ .file c')]
  · next names hlocate =>
    obtain rfl := (Prod.mk.inj h).1
    left
    rw [content, locate_put (hlocate ▸ .vacant)]
  · next names hlocate =>
    obtain rfl := (Prod.mk.inj h).1
    exact .inr ⟨names, hlocate⟩
  all_goals
    cases (Prod.mk.inj h).2

/-- A file that was written without an error holds what was written. -/
lemma content_of_write (h : t.write path (.file c) = (t', none)) :
    t'.content path = .ok c ∨ ∃ names, t'.locate path = .found names .sink := by
  rcases hprepare : t.prepare path with ⟨t₁, _ | e⟩
  · simp only [write, hprepare] at h
    exact content_of_store h
  · simp only [write, hprepare] at h
    cases (Prod.mk.inj h).2

/-! ### Ends of searches -/

/-- Names that are inside of a directory that is there, below the top or above it. -/
def Child (t : Tree) (names : List Text) : Prop :=
  ∃ above name, names = above ++ [name] ∧ IsName name ∧ rootName ∉ above ∧
    t.node? above = some .directory

lemma Child.root_not_mem (h : t.Child names) : rootName ∉ names := by
  obtain ⟨above, name, rfl, hname, hroot, -⟩ := h
  simp [hroot, Ne.symm hname.ne_root]

/-- A part that may come up in the text of a path. -/
def IsPart (part : Text) : Prop := part ≠ [] ∧ '/' ∉ part ∧ '\x00' ∉ part

/-- Every part of a path without null characters is one that a file name can be. -/
lemma isPart_of_mem_partsOf (hnull : '\x00' ∉ path) : ∀ part ∈ partsOf path, IsPart part := by
  intro part hpart
  rcases List.mem_append.mp hpart with hpart | hpart
  · obtain ⟨hsplit, hne⟩ := List.mem_filter.mp hpart
    refine ⟨of_decide_eq_true hne, Text.not_mem_of_mem_splitOn hsplit, fun hmem => hnull ?_⟩
    rw [← Text.join_splitOn '/' path]
    exact (Text.mem_join_iff (by decide)).mpr ⟨part, hsplit, hmem⟩
  · split at hpart
    · rw [List.mem_singleton.mp hpart]
      exact ⟨by decide, by decide, by decide⟩
    · cases hpart

namespace WellFormed

/-- What is there, below the top or above it, has an entry or is the top or above it. -/
lemma mem_of_node? (h : t.node? names = some n) (hroot : rootName ∉ names) :
    names.all (· = aboveName) ∨ (names, n) ∈ t.nodes := by
  rw [node?] at h
  split at h
  · next hfixed =>
    rcases hfixed with hall | rfl | rfl
    · exact .inl hall
    · simp at hroot
    · simp [devices] at hroot
  · split at h
    · next hsink =>
      subst hsink
      simp [sinkNames, devices] at hroot
    · exact .inr (Mapping.mem_of_get? h)

/-- The directory above a directory is there. -/
lemma node?_above (h : t.WellFormed) (hdir : t.node? names = some .directory)
    (hroot : rootName ∉ names) :
    t.node? (above names) = some .directory ∧ rootName ∉ above names := by
  rw [above]
  split
  · next hall =>
    refine ⟨?_, by simpa [hroot] using (by decide : rootName ≠ aboveName)⟩
    rw [node?, if_pos (.inl (by simpa using hall))]
  · next hall =>
    rw [if_neg fun hsingle => hroot (by simp [hsingle])]
    have hmem := (mem_of_node? hdir hroot).resolve_left hall
    obtain ⟨outer, name, rfl, hname⟩ := h.named hmem
    rw [List.dropLast_concat]
    refine ⟨?_, fun hin => hroot (List.mem_append_left _ hin)⟩
    rcases h.inside hmem with hall | rfl | hmem'
    · rw [node?, if_pos (.inl hall)]
    · rfl
    · exact h.found hmem'

/-- A search from a directory that ends where a file may be put ends inside of a directory. The
search may go up and down on its way. -/
lemma child_of_follow (h : t.WellFormed) (hparts : ∀ part ∈ parts, IsPart part)
    (hns : (t.node? ns = some .directory ∧ rootName ∉ ns) ∨ t.Child ns)
    (hend : (t.follow ns parts).Takes names) : t.Child names := by
  induction parts generalizing ns with
  | nil =>
    rcases hns with ⟨hdir, -⟩ | hchild
    · rw [follow_nil hdir] at hend
      cases hend
    · obtain rfl : ns = names := by
        rw [follow] at hend
        split at hend <;> cases hend <;> rfl
      exact hchild
  | cons part parts ih =>
    obtain ⟨⟨hne, hslash, hnull⟩, hparts⟩ := List.forall_mem_cons.mp hparts
    rw [follow] at hend
    split at hend
    · cases hend
    · cases hend
    · cases hend
    · next hnode =>
      have hroot : rootName ∉ ns := hns.elim And.right Child.root_not_mem
      split at hend
      · exact ih hparts hns hend
      · next hhere =>
        split at hend
        · exact ih hparts (.inl (h.node?_above hnode hroot)) hend
        · next habove =>
          split at hend
          · cases hend
          · next hlong =>
            have hname : IsName part := ⟨hne, hhere, habove, hslash, hnull, Nat.not_lt.mp hlong⟩
            exact ih hparts (.inr ⟨ns, part, rfl, hname, hroot, hnode⟩) hend

/-- What a relative path can create stands in a directory that exists. -/
lemma child_of_locate (h : t.WellFormed) (hpath : path.head? ≠ some '/')
    (hend : (t.locate path).Takes names) : t.Child names := by
  have htext := isPathText_of_takes hend
  rw [htext.locate_eq, startOf, if_neg hpath] at hend
  exact h.child_of_follow (isPart_of_mem_partsOf htext.null) (.inl ⟨rfl, by simp⟩) hend

/-! ### Well-formed trees -/

/-- One entry more in a directory. -/
lemma put (h : t.WellFormed) (hpath : path.head? ≠ some '/') (hend : (t.locate path).Takes names)
    (hn : n ≠ .sink) : (t.put names n).WellFormed := by
  have hchild := h.child_of_locate hpath hend
  have hdir := (free_of_locate hend).1
  have hnoRoot := hchild.root_not_mem
  obtain ⟨above, name, rfl, hname, hroot, habove⟩ := hchild
  -- a node of the changed tree is the new one or an old one under other names
  have hmem {ns' n'} : (ns', n') ∈ (t.put (above ++ [name]) n).nodes ↔
      ns' = above ++ [name] ∧ n' = n ∨ ns' ≠ above ++ [name] ∧ (ns', n') ∈ t.nodes :=
    Mapping.mem_insert_iff h.nodup
  refine ⟨Mapping.nodup_keys_insert h.nodup _ _, ?named, ?inside, ?noDevice, ?noSink⟩
  case named =>
    intro ns' n' hin
    rcases hmem.mp hin with ⟨rfl, -⟩ | ⟨-, hin⟩
    · exact ⟨above, name, rfl, hname⟩
    · exact h.named hin
  case inside =>
    intro above' name' n' hin
    rcases hmem.mp hin with ⟨heq, -⟩ | ⟨-, hin⟩
    · obtain ⟨rfl, -⟩ := List.append_inj' heq rfl
      refine (mem_of_node? habove hroot).imp_right fun hin => .inr (hmem.mpr (.inr ⟨?_, hin⟩))
      simp
    · refine (h.inside hin).imp_right (.imp_right fun hin => hmem.mpr (.inr ⟨?_, hin⟩))
      rintro rfl
      exact hdir (h.found hin)
  case noDevice =>
    intro ns' n' hin
    rcases hmem.mp hin with ⟨rfl, -⟩ | ⟨-, hin⟩
    · intro heq
      rw [heq] at hnoRoot
      simp [devices] at hnoRoot
    · exact h.noDevice hin
  case noSink =>
    intro ns' n' hin
    rcases hmem.mp hin with ⟨-, rfl⟩ | ⟨-, hin⟩
    · exact hn
    · exact h.noSink hin

lemma makeDirectories (h : t.WellFormed) {paths : List Text}
    (hpaths : ∀ path ∈ paths, path.head? ≠ some '/') : (t.makeDirectories paths).1.WellFormed := by
  induction paths generalizing t with
  | nil => exact h
  | cons path rest ih =>
    obtain ⟨hpath, hrest⟩ := List.forall_mem_cons.mp hpaths
    unfold Tree.makeDirectories
    split
    · exact ih h hrest
    · split
      · exact h
      · exact ih h hrest
    · split
      · exact h
      · exact ih h hrest
    · next names hlocate =>
      exact ih (h.put hpath (hlocate ▸ .vacant) (by simp)) hrest
    all_goals exact h

lemma store (h : t.WellFormed) (hpath : path.head? ≠ some '/') (c : Content) :
    (t.store path c).1.WellFormed := by
  unfold Tree.store
  split
  · next names c' hlocate => exact h.put hpath (hlocate ▸ .file c') (by simp)
  · next names hlocate => exact h.put hpath (hlocate ▸ .vacant) (by simp)
  all_goals exact h

end WellFormed

/-! ### Beginnings of paths -/

/-- What begins a path from the top is a path from the top. -/
lemma head?_ne_of_begins {beginning : Text} (hpath : path.head? ≠ some '/')
    (h : beginning <+: path) : beginning.head? ≠ some '/' := by
  obtain ⟨rest, rfl⟩ := h
  intro hhead
  rw [List.head?_append, hhead] at hpath
  exact hpath rfl

/-- Each beginning of a path is a prefix of it. -/
lemma prefix_of_mem_beginningsFrom {before after beginning : Text}
    (h : beginning ∈ beginningsFrom before after) : beginning <+: before.reverse ++ after := by
  induction after generalizing before with
  | nil =>
    rw [beginningsFrom] at h
    split at h
    · simp [List.mem_singleton.mp h]
    · cases h
  | cons c after ih =>
    have hcons (h : beginning ∈ beginningsFrom (c :: before) after) :
        beginning <+: before.reverse ++ c :: after := by simpa using ih h
    rw [beginningsFrom] at h
    split at h
    · rcases List.mem_cons.mp h with rfl | h
      · exact List.prefix_append _ _
      · exact hcons h
    · exact hcons h

lemma head?_ne_of_mem_beginnings (hpath : path.head? ≠ some '/') :
    ∀ beginning ∈ beginnings path, beginning.head? ≠ some '/' := fun _ h =>
  head?_ne_of_begins hpath (prefix_of_mem_beginningsFrom h)

/-- The directory of a path is written at its beginning. -/
lemma directoryText_begins (path : Text) : directoryText path <+: path := by
  have hhead : (path.reverse.dropWhile (· ≠ '/')).reverse <+: path :=
    List.rdropWhile_prefix _ path
  rw [directoryText]
  split
  · exact hhead
  · exact (List.rdropWhile_prefix _ _).trans hhead

namespace WellFormed

/-- Writing at a path from the top keeps a tree well-formed, even if it fails. -/
lemma write (h : t.WellFormed) (hpath : path.head? ≠ some '/') (n : Node) :
    (t.write path n).1.WellFormed := by
  have hprepare : (t.prepare path).1.WellFormed :=
    h.makeDirectories (head?_ne_of_mem_beginnings
      (head?_ne_of_begins hpath (directoryText_begins path)))
  rcases hresult : t.prepare path with ⟨t₁, _ | e⟩ <;> rw [hresult] at hprepare
  · cases n with
    | file c =>
      simp only [Tree.write, hresult]
      exact hprepare.store hpath c
    | directory =>
      simp only [Tree.write, hresult, makeDirectory]
      split
      · exact hprepare
      · exact hprepare.makeDirectories (head?_ne_of_mem_beginnings hpath)
    | sink =>
      simp only [Tree.write, hresult]
      exact hprepare
  · simp only [Tree.write, hresult]
    exact hprepare

/-- A tree that has nothing. -/
lemma empty : ({} : Tree).WellFormed where
  nodup := List.nodup_nil
  named h := by cases h
  inside h := by cases h
  noDevice h := by cases h
  noSink h := by cases h

end WellFormed

end FeatureDocs.Tree
