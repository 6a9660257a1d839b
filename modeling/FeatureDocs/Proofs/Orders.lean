import FeatureDocs.Files.Path
import Mathlib.Tactic.Common

/-!
# The orders of texts and paths

Texts, the parts of paths and paths are compared at the first place where they differ; such an order
is linear if that of what stands there is (`IsOrder.lex`). So what is sorted is ascending, and
strictly so if it has nothing twice (`Path.pairwise_sort`).
-/

namespace FeatureDocs

/-- A relation that compares any two things and leads round no circle. -/
structure IsOrder {α : Type} (le : α → α → Bool) : Prop where
  total : ∀ a b, le a b ∨ le b a
  trans : ∀ {a b c}, le a b → le b c → le a c
  antisymm : ∀ {a b}, le a b → le b a → a = b

namespace IsOrder

variable {α : Type} {le : α → α → Bool}

/-- What different things have that is compared puts them in order too. -/
lemma comap {β : Type} (h : IsOrder le) {f : β → α} (hf : Function.Injective f) :
    IsOrder fun a b => le (f a) (f b) where
  total a b := h.total (f a) (f b)
  trans := h.trans
  antisymm hab hba := hf (h.antisymm hab hba)

/-- Sorting by an order puts the elements in that order. -/
lemma pairwise_mergeSort (h : IsOrder le) (as : List α) :
    (as.mergeSort le).Pairwise fun a b => le a b := by
  have htotal : ∀ a b, (le a b || le b a) = true := fun a b => by
    rw [Bool.or_eq_true]
    exact h.total a b
  exact @List.pairwise_mergeSort α le (fun _ _ _ => h.trans) htotal as

/-! ### Lists -/

/-- Lists in the order of their first different items. -/
def lexLe [DecidableEq α] (le : α → α → Bool) : List α → List α → Bool
  | [], _ => true
  | _ :: _, [] => false
  | a :: as, b :: bs => if a = b then lexLe le as bs else le a b

lemma lexLe_cons_iff [DecidableEq α] {a b : α} {as bs : List α} :
    lexLe le (a :: as) (b :: bs) ↔ a = b ∧ lexLe le as bs ∨ a ≠ b ∧ le a b := by
  by_cases h : a = b <;> simp [lexLe, h]

/-- Lists are ordered by the first place where they differ. -/
lemma lex [DecidableEq α] (h : IsOrder le) : IsOrder (lexLe le) where
  total as := by
    induction as with
    | nil => exact fun _ => .inl rfl
    | cons a as ih =>
      intro bs
      cases bs with
      | nil => exact .inr rfl
      | cons b bs =>
        rw [lexLe_cons_iff, lexLe_cons_iff]
        by_cases hab : a = b
        · exact (ih bs).imp (.inl ⟨hab, ·⟩) (.inl ⟨hab.symm, ·⟩)
        · exact (h.total a b).imp (.inr ⟨hab, ·⟩) (.inr ⟨Ne.symm hab, ·⟩)
  trans {as bs cs} := by
    induction as generalizing bs cs with
    | nil => exact fun _ _ => rfl
    | cons a as ih =>
      intro hab hbc
      obtain _ | ⟨b, bs⟩ := bs
      · cases hab
      obtain _ | ⟨c, cs⟩ := cs
      · cases hbc
      rw [lexLe_cons_iff] at *
      rcases hab with ⟨rfl, hab⟩ | ⟨hne, hab⟩
      · exact hbc.imp_left fun ⟨hac, hbc⟩ => ⟨hac, ih hab hbc⟩
      · rcases hbc with ⟨rfl, hbc⟩ | ⟨-, hbc⟩
        · exact .inr ⟨hne, hab⟩
        · refine .inr ⟨?_, h.trans hab hbc⟩
          rintro rfl
          exact hne (h.antisymm hab hbc)
  antisymm {as bs} := by
    induction as generalizing bs with
    | nil =>
      intro _ hba
      cases bs with
      | nil => rfl
      | cons b bs => cases hba
    | cons a as ih =>
      intro hab hba
      obtain _ | ⟨b, bs⟩ := bs
      · cases hab
      rw [lexLe_cons_iff] at *
      rcases hab with ⟨rfl, hab⟩ | ⟨hne, hab⟩
      · rcases hba with ⟨-, hba⟩ | ⟨hne, -⟩
        · rw [ih hab hba]
        · exact absurd rfl hne
      · rcases hba with ⟨heq, -⟩ | ⟨-, hba⟩
        · exact absurd heq.symm hne
        · exact absurd (h.antisymm hab hba) hne

end IsOrder

/-! ### Texts -/

lemma Text.isOrder_le : IsOrder Text.le := by
  have hchar : IsOrder fun c d : Char => decide (c.toNat ≤ d.toNat) :=
    { total := fun c d => by simpa using Nat.le_total c.toNat d.toNat
      trans := fun {c d e} hcd hde => by simp at *; omega
      antisymm := fun {c d} hcd hdc => Char.toNat_inj.mp (by simp at *; omega) }
  have hle : Text.le = IsOrder.lexLe fun c d : Char => decide (c.toNat ≤ d.toNat) := by
    funext t u
    induction t generalizing u with
    | nil => rfl
    | cons c t ih =>
      cases u with
      | nil => rfl
      | cons d u =>
        rw [Text.le, IsOrder.lexLe, ih]
        split
        · rfl
        · next hne =>
          have : c.toNat ≠ d.toNat := fun h => hne (Char.toNat_inj.mp h)
          simp
          omega
  rw [hle]
  exact hchar.lex

lemma Text.sort_perm (ts : List Text) : (sort ts).Perm ts := List.mergeSort_perm ts le

/-- Two texts that stand in the wrong order change places. -/
lemma Text.sort_pair {t u : Text} (h : le t u = false) : sort [t, u] = [u, t] := by
  simp [sort, List.mergeSort, h]

lemma Text.pairwise_sort (ts : List Text) : (sort ts).Pairwise fun t u => le t u :=
  isOrder_le.pairwise_mergeSort ts

/-! ### Paths -/

namespace Path

lemma isOrder_partsLe : IsOrder partsLe := by
  have hle : partsLe = IsOrder.lexLe Text.le := by
    funext ps qs
    induction ps generalizing qs with
    | nil => rfl
    | cons p ps ih =>
      cases qs with
      | nil => rfl
      | cons q qs => rw [partsLe, IsOrder.lexLe, ih]
  rw [hle]
  exact Text.isOrder_le.lex

/-- Paths are ordered by their parts, and the start decides first. -/
lemma isOrder_le : IsOrder Path.le := by
  have hinj : Function.Injective fun p : Path => p.root :: p.parts := by
    rintro ⟨root, parts⟩ ⟨root', parts'⟩ h
    obtain ⟨rfl, rfl⟩ := List.cons.inj h
    rfl
  exact isOrder_partsLe.comap hinj

lemma sort_perm (ps : List Path) : (sort ps).Perm ps := List.mergeSort_perm ps le

/-- Two paths that stand in the wrong order change places. -/
lemma sort_pair {p q : Path} (h : p.le q = false) : sort [p, q] = [q, p] := by
  simp [sort, List.mergeSort, h]

/-- Paths that are all different are sorted in strictly ascending order. -/
lemma pairwise_sort {ps : List Path} (h : ps.Nodup) :
    (sort ps).Pairwise fun p q => p.le q ∧ p ≠ q :=
  (isOrder_le.pairwise_mergeSort ps).and ((sort_perm ps).nodup_iff.mpr h)

end Path

end FeatureDocs
