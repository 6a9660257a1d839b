/-!
# Mappings

A mapping is the list of its entries. A key keeps the place of its first insertion and holds the
value of its last one. `get?_insert` is the law of insertion for any equivalence of keys.
-/

namespace FeatureDocs

/-- Keys with their values, in the order in which the keys came. -/
abbrev Mapping (κ α : Type) := List (κ × α)

namespace Mapping

variable {κ α : Type} [BEq κ]

/-- The value of a key. -/
def get? (m : Mapping κ α) (k : κ) : Option α := List.lookup k m

/-- Whether a key has a value. -/
def contains (m : Mapping κ α) (k : κ) : Bool := (get? m k).isSome

/-- The mapping with a new value for a key; a key that is new comes last. -/
def insert : Mapping κ α → κ → α → Mapping κ α
  | [], k, v => [(k, v)]
  | (k', v') :: m, k, v => if k == k' then (k', v) :: m else (k', v') :: insert m k v

/-- The mapping without a key. -/
def erase (m : Mapping κ α) (k : κ) : Mapping κ α := m.filter fun e => !(k == e.1)

/-- The mapping that results from inserting the entries one after the other. -/
def ofList (entries : List (κ × α)) : Mapping κ α :=
  entries.foldl (fun m e => insert m e.1 e.2) []

/-- The keys in order. -/
def keys (m : Mapping κ α) : List κ := m.map (·.1)

/-- The values in the order of their keys. -/
def values (m : Mapping κ α) : List α := m.map (·.2)

@[simp] theorem get?_nil (k : κ) : get? ([] : Mapping κ α) k = none := rfl

theorem get?_cons (k k' : κ) (v : α) (m : Mapping κ α) :
    get? ((k', v) :: m) k = if k == k' then some v else get? m k := by
  simp only [get?, List.lookup_cons]
  cases k == k' <;> rfl

/-- After an insertion a key has the inserted value if it is the same key, else its old one. -/
theorem get?_insert [EquivBEq κ] (m : Mapping κ α) (k k' : κ) (v : α) :
    get? (insert m k v) k' = if k' == k then some v else get? m k' := by
  induction m with
  | nil => simp [insert, get?_cons]
  | cons e m ih =>
    obtain ⟨k₁, v₁⟩ := e
    unfold insert
    by_cases h : (k == k₁) = true
    · have hk : (k' == k₁) = (k' == k) := by
        cases h' : k' == k with
        | true => exact BEq.trans h' h
        | false =>
          cases h'' : k' == k₁ with
          | false => rfl
          | true => exact absurd (BEq.trans h'' (BEq.symm h)) (by simp [h'])
      simp only [h, if_true, get?_cons, hk]
      split <;> rfl
    · simp only [h, if_false, get?_cons, ih, Bool.false_eq_true]
      by_cases h₁ : (k' == k₁) = true
      · have hk : (k' == k) = false := by
          cases h' : k' == k with
          | false => rfl
          | true => exact absurd (BEq.trans (BEq.symm h') h₁) h
        simp [h₁, hk]
      · simp [h₁]

omit [BEq κ] in
theorem mem_keys {m : Mapping κ α} {k : κ} {v : α} (h : (k, v) ∈ m) : k ∈ keys m :=
  List.mem_map.mpr ⟨(k, v), h, rfl⟩

section Lawful

variable [LawfulBEq κ]

theorem mem_of_get? {m : Mapping κ α} {k : κ} {v : α} (h : get? m k = some v) : (k, v) ∈ m := by
  obtain ⟨before, after, rfl, -⟩ := List.lookup_eq_some_iff.mp h
  exact List.mem_append_right _ List.mem_cons_self

/-- A key without another entry has the value of its entry. -/
theorem get?_of_mem {m : Mapping κ α} (hnodup : (keys m).Nodup) {k : κ} {v : α}
    (h : (k, v) ∈ m) : get? m k = some v := by
  induction m with
  | nil => cases h
  | cons e m ih =>
    obtain ⟨k', v'⟩ := e
    obtain ⟨hnew, hnodup⟩ := List.nodup_cons.mp hnodup
    rw [get?_cons]
    rcases List.mem_cons.mp h with heq | hmem
    · obtain ⟨rfl, rfl⟩ := Prod.mk.inj heq
      simp
    · have hne : k ≠ k' := by
        rintro rfl
        exact hnew (mem_keys hmem)
      rw [if_neg (by simpa using hne), ih hnodup hmem]

/-- The entries after an insertion. -/
theorem mem_insert_iff {m : Mapping κ α} (hnodup : (keys m).Nodup) {k k' : κ} {v v' : α} :
    (k', v') ∈ insert m k v ↔ k' = k ∧ v' = v ∨ k' ≠ k ∧ (k', v') ∈ m := by
  induction m with
  | nil => simp [insert]
  | cons e m ih =>
    obtain ⟨k₁, v₁⟩ := e
    obtain ⟨hnew, hnodup⟩ := List.nodup_cons.mp hnodup
    rw [insert]
    split
    · next heq =>
      obtain rfl := beq_iff_eq.mp heq
      have hne : (k', v') ∈ m → k' ≠ k := by
        rintro hmem rfl
        exact hnew (mem_keys hmem)
      simp only [List.mem_cons, Prod.mk.injEq]
      grind
    · next hne =>
      rw [List.mem_cons, ih hnodup, List.mem_cons, Prod.mk.injEq]
      have hne' : k ≠ k₁ := by simpa using hne
      grind

theorem keys_insert (m : Mapping κ α) (k : κ) (v : α) :
    keys (insert m k v) = if k ∈ keys m then keys m else keys m ++ [k] := by
  induction m with
  | nil => rfl
  | cons e m ih =>
    obtain ⟨k', v'⟩ := e
    rw [insert]
    split
    · next heq =>
      obtain rfl := beq_iff_eq.mp heq
      simp [keys]
    · next hne =>
      have hne' : k ≠ k' := by simpa using hne
      simp only [keys, List.map_cons, List.mem_cons, hne', false_or] at ih ⊢
      rw [ih]
      by_cases hk : k ∈ m.map (·.1) <;> simp [hk]

theorem nodup_keys_insert {m : Mapping κ α} (h : (keys m).Nodup) (k : κ) (v : α) :
    (keys (insert m k v)).Nodup := by
  rw [keys_insert]
  split
  · exact h
  · next hnew => exact List.nodup_append.mpr ⟨h, by simp, by grind⟩

end Lawful

end Mapping

end FeatureDocs
