import FeatureDocs.Files.Glob
import FeatureDocs.Proofs.Orders
import FeatureDocs.Proofs.Trees

/-!
# What globs lead to

A glob leads to no path twice (`Glob.nodup_of_select`). Two stars and a wildcard that ends in a
given text lead to all that is below a directory and has a name with that ending, be it a file or a
directory (`Glob.mem_select_deep`), if all directories there can be looked into
(`Glob.select_deep_ok_iff`).
-/

namespace FeatureDocs

/-! ### Endings -/

namespace Wildcard

/-- The wildcard for all names with an ending. -/
def ending (t : Text) : Wildcard := .run :: t.map fun c => .one (.single c)

/-- A wildcard of single characters matches one name only. -/
lemma matches_singles_iff {t name : Text} :
    Matches (t.map fun c => .one (.single c)) name ↔ name = t := by
  induction t generalizing name with
  | nil =>
    constructor
    · intro h
      cases h
      rfl
    · rintro rfl
      exact .nil
  | cons c t ih =>
    constructor
    · intro h
      rw [List.map_cons] at h
      cases h with
      | @one _ _ d rest hc h =>
        obtain rfl : d = c := by simpa [CharSet.contains, CharSet.single] using hc
        rw [ih.mp h]
    · rintro rfl
      exact .one (by simp [CharSet.contains, CharSet.single]) (ih.mpr rfl)

/-- A wildcard for an ending accepts the names that end so. -/
lemma accepts_ending_iff {t name : Text} : (ending t).accepts name ↔ t <:+ name := by
  rw [accepts_iff]
  constructor
  · intro h
    cases h with
    | run skipped h =>
      rw [matches_singles_iff.mp h]
      exact ⟨skipped, rfl⟩
  · rintro ⟨skipped, rfl⟩
    exact .run skipped (matches_singles_iff.mpr rfl)

end Wildcard

/-! ### One part for many directories -/

namespace Glob

variable {t : Tree} {rest : Glob} {g : GlobPart} {ps qs : List Path}

/-- What a step of a glob finds from several paths is what it finds from each. -/
lemma mem_of_stepAll (h : stepAll t rest g ps = .ok qs) (q : Path) :
    q ∈ qs ↔ ∃ p ∈ ps, ∃ found, step t rest p g = .ok found ∧ q ∈ found := by
  induction ps generalizing qs with
  | nil =>
    obtain rfl : [] = qs := Except.ok.inj h
    simp
  | cons p ps ih =>
    rw [stepAll] at h
    split at h
    · cases h
    · cases h
    · next found more hstep hmore =>
      obtain rfl : found ++ more = qs := Except.ok.inj h
      simp [ih hmore, hstep]

/-- A step of a glob succeeds from several paths when it succeeds from each. -/
lemma stepAll_ok_iff :
    (∃ qs, stepAll t rest g ps = .ok qs) ↔ ∀ p ∈ ps, ∃ found, step t rest p g = .ok found := by
  induction ps with
  | nil => simp [stepAll]
  | cons p ps ih =>
    rw [List.forall_mem_cons, ← ih, stepAll]
    cases step t rest p g <;> cases stepAll t rest g ps <;> simp

private lemma nodup_eraseDups {α : Type} [DecidableEq α] (as : List α) : as.eraseDups.Nodup := by
  cases as with
  | nil => exact List.nodup_nil
  | cons a as =>
    rw [List.eraseDups_cons, List.nodup_cons]
    refine ⟨?_, nodup_eraseDups _⟩
    simp [List.mem_eraseDups]
termination_by as.length
decreasing_by exact Nat.lt_succ_of_le (List.length_filter_le _ _)

/-- A glob leads to no path twice. -/
lemma nodup_of_select {g : Glob} (h : g.select t ps = .ok qs) (hps : ps.Nodup) : qs.Nodup := by
  induction g generalizing ps with
  | nil =>
    obtain rfl : ps = qs := Except.ok.inj h
    exact hps
  | cons part rest ih =>
    rw [select] at h
    split at h
    · cases h
    · exact ih h (nodup_eraseDups _)

/-! ### All that is below a directory -/

section Deep

variable {p : Path} {names rest : List Text} {ending : Text} {found : List Path}

/-- The glob for all names with an ending, at any depth. -/
def deep (ending : Text) : Glob := [.anyDepth, .wildcard (.ending ending)]

lemma select_deep (t : Tree) (p : Path) (ending : Text) :
    (deep ending).select t [p] =
      (stepAll t [] (.wildcard (.ending ending)) (t.directories p).eraseDups).map
        (·.eraseDups) := by
  have hdirectories : stepAll t [.wildcard (.ending ending)] .anyDepth [p] =
      .ok (t.directories p) := by
    rw [stepAll, stepAll, step]
    simp
  rw [deep, select, hdirectories]
  simp only [select]
  cases stepAll t [] (.wildcard (.ending ending)) (t.directories p).eraseDups <;> rfl

variable (h : t.WellFormed) (hclean : p.IsClean) (hp : t.locate p.toText = .found names .directory)
include h hclean hp

/-- A directory can be listed exactly when its path is not too long. -/
lemma step_ending_ok_iff (hrest : rest = [] ∨ t.Below names rest .directory) :
    (∃ found, step t [] (p.below rest) (.wildcard (.ending ending)) = .ok found) ↔
      (p.below rest).Fits := by
  rw [step, Tree.entries_of_below h hclean hp hrest]
  by_cases hfits : (p.below rest).Fits <;> simp [hfits, Except.map]

/-- What a directory lists under an ending are its entries with that ending. -/
lemma mem_step_ending (hrest : rest = [] ∨ t.Below names rest .directory)
    (hfound : step t [] (p.below rest) (.wildcard (.ending ending)) = .ok found) {q : Path} :
    q ∈ found ↔ ∃ name n, t.Below names (rest ++ [name]) n ∧ ending <:+ name ∧
      q = p.below (rest ++ [name]) := by
  have hfits := (step_ending_ok_iff h hclean hp hrest).mp ⟨found, hfound⟩
  rw [step, Tree.entries_of_below h hclean hp hrest, if_pos hfits] at hfound
  obtain rfl := Except.ok.inj hfound
  simp only [List.mem_map, List.mem_filter, Prod.exists, Tree.mem_entriesIn,
    ← h.below_append_iff hrest, Path.child_below, List.isEmpty_nil, Bool.true_or, Bool.and_true,
    Wildcard.accepts_ending_iff]
  constructor
  · rintro ⟨name, n, ⟨hb, hname⟩, rfl⟩
    exact ⟨name, n, hb, hname, rfl⟩
  · rintro ⟨name, n, hb, hname, rfl⟩
    exact ⟨name, n, ⟨hb, hname⟩, rfl⟩

/-- All directories below have to be looked into. -/
lemma select_deep_ok_iff :
    (∃ qs, (deep ending).select t [p] = .ok qs) ↔
      ∀ rest, t.Below names rest .directory → (p.below rest).Fits := by
  have hmap : (∃ qs, (deep ending).select t [p] = .ok qs) ↔
      ∃ qs, stepAll t [] (.wildcard (.ending ending)) (t.directories p).eraseDups = .ok qs := by
    rw [select_deep]
    cases stepAll t [] (.wildcard (.ending ending)) (t.directories p).eraseDups <;>
      simp [Except.map]
  rw [hmap, stepAll_ok_iff]
  simp only [List.mem_eraseDups, Tree.mem_directories_iff hp]
  constructor
  · intro hall rest hb
    exact (step_ending_ok_iff h hclean hp (.inr hb)).mp (hall _ ⟨rest, .inr hb, rfl⟩)
  · rintro hall q ⟨rest, hrest, rfl⟩
    refine (step_ending_ok_iff h hclean hp hrest).mpr ?_
    rcases hrest with rfl | hb
    · rw [Path.below_nil]
      exact Tree.fits_of_locate hp
    · exact hall rest hb

/-- All that has the ending is found, directories too. -/
lemma mem_select_deep (hqs : (deep ending).select t [p] = .ok qs) {q : Path} :
    q ∈ qs ↔ ∃ rest n, t.Below names rest n ∧ (∃ name ∈ rest.getLast?, ending <:+ name) ∧
      q = p.below rest := by
  rw [select_deep] at hqs
  cases hall : stepAll t [] (.wildcard (.ending ending)) (t.directories p).eraseDups with
  | error e =>
    rw [hall] at hqs
    cases hqs
  | ok all =>
    rw [hall] at hqs
    obtain rfl : all.eraseDups = qs := Except.ok.inj hqs
    simp only [List.mem_eraseDups, mem_of_stepAll hall, Tree.mem_directories_iff hp]
    constructor
    · rintro ⟨_, ⟨rest, hrest, rfl⟩, found, hfound, hq⟩
      obtain ⟨name, n, hb, hname, rfl⟩ := (mem_step_ending h hclean hp hrest hfound).mp hq
      exact ⟨rest ++ [name], n, hb, ⟨name, by simp, hname⟩, rfl⟩
    · -- the last name is the file's own, and what is in front of it is a directory that was listed
      rintro ⟨rest, n, hb, ⟨name, hlast, hname⟩, rfl⟩
      obtain ⟨above, rfl⟩ := List.getLast?_eq_some_iff.mp hlast
      have habove : above = [] ∨ t.Below names above .directory :=
        or_iff_not_imp_left.mpr (h.below_of_append hb)
      have hmem : p.below above ∈ (t.directories p).eraseDups :=
        List.mem_eraseDups.mpr ((Tree.mem_directories_iff hp).mpr ⟨above, habove, rfl⟩)
      obtain ⟨found, hfound⟩ := stepAll_ok_iff.mp ⟨all, hall⟩ _ hmem
      exact ⟨_, ⟨above, habove, rfl⟩, found, hfound,
        (mem_step_ending h hclean hp habove hfound).mpr ⟨name, n, hb, hname, rfl⟩⟩

end Deep

end Glob

end FeatureDocs
