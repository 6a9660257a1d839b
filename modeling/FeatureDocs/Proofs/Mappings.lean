import FeatureDocs.Mapping
import Mathlib.Data.List.Induction
import Mathlib.Tactic.Lemma

/-!
# Entries laid over a mapping

Entries are inserted one after the other, and each one is made of its own value and of what its key
had before (`Mapping.layOver`). If no key comes twice, the order does not matter to what a key has
afterwards (`get?_layOver`). If keys do, the first entry for a key gives its place and the last one
its value (`keys_ofList`, `get?_ofList`).
-/

namespace FeatureDocs.Mapping

variable {κ α : Type} [BEq κ]

/-- No key comes twice. -/
def Distinct (m : Mapping κ α) : Prop := m.Pairwise fun e e' => (e.1 == e'.1) = false

instance (m : Mapping κ α) : Decidable (Distinct m) :=
  inferInstanceAs (Decidable (List.Pairwise _ m))

/-- Lay entries over a mapping. Each key gets what `f` makes of its value, if it has one, and the
new one. -/
def layOver (f : Option α → α → α) (base : Mapping κ α) (entries : List (κ × α)) : Mapping κ α :=
  entries.foldl (fun m e => insert m e.1 (f (get? m e.1) e.2)) base

variable {f : Option α → α → α} {m base entries : Mapping κ α} {k k' : κ} {v : α}

lemma layOver_cons (f : Option α → α → α) (base : Mapping κ α) (e : κ × α)
    (entries : List (κ × α)) :
    layOver f base (e :: entries) =
      layOver f (insert base e.1 (f (get? base e.1) e.2)) entries := rfl

lemma get?_eq_none_iff : get? m k = none ↔ ∀ e ∈ m, (k == e.1) = false := by
  rw [get?, List.lookup_eq_none_iff]
  simp only [bne, Bool.not_eq_true']

lemma get?_append (m m' : Mapping κ α) (k : κ) : get? (m ++ m') k = (get? m k).or (get? m' k) :=
  List.lookup_append

/-- What is found stands in the mapping, under the key as it was spelled first. -/
lemma exists_mem_of_get? (h : get? m k = some v) : ∃ k', (k', v) ∈ m := by
  induction m with
  | nil => cases h
  | cons e m ih =>
    obtain ⟨k', v'⟩ := e
    rw [get?_cons] at h
    split at h
    · exact ⟨k', by simpa using .inl (Option.some.inj h).symm⟩
    · obtain ⟨k'', hmem⟩ := ih h
      exact ⟨k'', List.mem_cons_of_mem _ hmem⟩

/-- A new key is appended. -/
lemma insert_of_get?_eq_none (h : get? m k = none) (v : α) : insert m k v = m ++ [(k, v)] := by
  induction m with
  | nil => rfl
  | cons e m ih =>
    obtain ⟨hne, hm⟩ := List.forall_mem_cons.mp (get?_eq_none_iff.mp h)
    rw [insert, if_neg (by simp [hne]), ih (get?_eq_none_iff.mpr hm), List.cons_append]

/-- A key that has the value already keeps it. -/
lemma insert_of_get?_eq_some (h : get? m k = some v) : insert m k v = m := by
  induction m with
  | nil => cases h
  | cons e m ih =>
    obtain ⟨k', v'⟩ := e
    rw [get?_cons] at h
    rw [insert]
    split at h
    · next heq => rw [if_pos heq, Option.some.inj h]
    · next hne => rw [if_neg hne, ih h]

/-- An entry of a changed mapping is an old one or has the new value. -/
lemma mem_of_mem_insert {e : κ × α} (h : e ∈ insert m k v) : e ∈ m ∨ e.2 = v := by
  induction m with
  | nil => exact .inr (by rw [List.mem_singleton.mp h])
  | cons e' m ih =>
    rw [insert] at h
    split at h
    · rcases List.mem_cons.mp h with rfl | h
      · exact .inr rfl
      · exact .inl (List.mem_cons_of_mem _ h)
    · rcases List.mem_cons.mp h with rfl | h
      · exact .inl List.mem_cons_self
      · exact (ih h).imp_left (List.mem_cons_of_mem _)

lemma erase_of_get?_eq_none (h : get? m k = none) : erase m k = m := by
  refine List.filter_eq_self.mpr fun e he => ?_
  simp [get?_eq_none_iff.mp h e he]

lemma Distinct.erase (h : Distinct m) (k : κ) : Distinct (erase m k) := List.Pairwise.filter _ h

/-- Entries that change nothing one by one change nothing together. -/
lemma layOver_eq_self
    (h : ∀ e ∈ entries, ∃ w, get? base e.1 = some w ∧ f (some w) e.2 = w) :
    layOver f base entries = base := by
  induction entries with
  | nil => rfl
  | cons e entries ih =>
    obtain ⟨⟨w, hw, hf⟩, h⟩ := List.forall_mem_cons.mp h
    rw [layOver_cons, hw, hf, insert_of_get?_eq_some hw, ih h]

section Equiv

variable [EquivBEq κ]

lemma beq_congr_left (h : (k == k') = true) (k'' : κ) : (k == k'') = (k' == k'') := by
  rw [Bool.eq_iff_iff]
  exact ⟨fun h' => BEq.trans (BEq.symm h) h', fun h' => BEq.trans h h'⟩

lemma get?_congr (h : (k == k') = true) (m : Mapping κ α) : get? m k = get? m k' := by
  induction m with
  | nil => rfl
  | cons e m ih => rw [get?_cons, get?_cons, beq_congr_left h, ih]

/-- Inserting keeps the keys distinct. -/
lemma Distinct.insert (h : Distinct m) (k : κ) (v : α) : Distinct (insert m k v) := by
  induction m with
  | nil => exact List.pairwise_singleton _ _
  | cons e m ih =>
    obtain ⟨hnew, h⟩ := List.pairwise_cons.mp h
    rw [Mapping.insert]
    split
    · exact List.pairwise_cons.mpr ⟨hnew, h⟩
    · next hne =>
      have hne' : ¬ (e.1 == k) = true := fun heq => hne (BEq.symm heq)
      refine List.pairwise_cons.mpr ⟨get?_eq_none_iff.mp ?_, ih h⟩
      rw [get?_insert, if_neg hne']
      exact get?_eq_none_iff.mpr hnew

/-- With distinct keys every entry is found under its own. -/
lemma Distinct.get?_of_mem (h : Distinct m) (hmem : (k, v) ∈ m) : get? m k = some v := by
  induction m with
  | nil => cases hmem
  | cons e m ih =>
    obtain ⟨hfresh, h⟩ := List.pairwise_cons.mp h
    rw [get?_cons]
    rcases List.mem_cons.mp hmem with rfl | hmem
    · rw [if_pos BEq.rfl]
    · have hne : (k == e.1) = false := by rw [BEq.comm, hfresh _ hmem]
      rw [hne, if_neg Bool.false_ne_true, ih h hmem]

/-- What a key has after entries were laid over a mapping. -/
lemma get?_layOver (h : Distinct entries) (k : κ) :
    get? (layOver f base entries) k =
      match get? entries k with
      | some v => some (f (get? base k) v)
      | none => get? base k := by
  induction entries generalizing base with
  | nil => rfl
  | cons e entries ih =>
    obtain ⟨hnew, h⟩ := List.pairwise_cons.mp h
    rw [layOver_cons, ih h, get?_cons, get?_insert]
    by_cases hk : (k == e.1) = true
    · have hnone : get? entries k = none := by
        rw [get?_congr hk]
        exact get?_eq_none_iff.mpr hnew
      rw [hnone, if_pos hk, if_pos hk, get?_congr hk]
    · rw [if_neg hk, if_neg hk]

/-- Entries with new keys come behind those that are there. -/
lemma layOver_of_new (h : Distinct entries) (hf : ∀ e ∈ entries, f none e.2 = e.2)
    (hnew : ∀ e ∈ entries, get? base e.1 = none) : layOver f base entries = base ++ entries := by
  induction entries generalizing base with
  | nil => exact (List.append_nil base).symm
  | cons e entries ih =>
    obtain ⟨hfresh, h⟩ := List.pairwise_cons.mp h
    obtain ⟨he, hf⟩ := List.forall_mem_cons.mp hf
    obtain ⟨hnone, hnew⟩ := List.forall_mem_cons.mp hnew
    have hnew' : ∀ e' ∈ entries, get? (base ++ [e]) e'.1 = none := by
      intro e' he'
      have hne : (e'.1 == e.1) = false := by rw [BEq.comm, hfresh e' he']
      rw [get?_append, hnew e' he', Option.none_or]
      exact get?_eq_none_iff.mpr (List.forall_mem_singleton.mpr hne)
    rw [layOver_cons, hnone, he, insert_of_get?_eq_none hnone, ih h hf hnew', List.append_assoc]
    rfl

/-- Nothing but the entries is left where there was nothing. -/
lemma layOver_nil (h : Distinct entries) (hf : ∀ e ∈ entries, f none e.2 = e.2) :
    layOver f [] entries = entries :=
  layOver_of_new h hf fun _ _ => rfl

/-! ### Mappings made of entries -/

omit [EquivBEq κ] in
lemma ofList_concat (entries : List (κ × α)) (e : κ × α) :
    ofList (entries ++ [e]) = insert (ofList entries) e.1 e.2 := by
  rw [ofList, List.foldl_append]
  rfl

/-- The last entry for a key gives its value. -/
lemma get?_ofList (entries : List (κ × α)) (k : κ) :
    get? (ofList entries) k = get? entries.reverse k := by
  induction entries using List.reverseRecOn with
  | nil => rfl
  | append_singleton entries e ih =>
    rw [ofList_concat, get?_insert, ih, List.reverse_concat, get?_cons]

/-- The value of a key among entries that are made of the items of a list. -/
lemma get?_map {β : Type} (f : β → κ) (g : β → α) (l : List β) (k : κ) :
    get? (l.map fun b => (f b, g b)) k = (l.find? (f · == k)).map g := by
  induction l with
  | nil => rfl
  | cons b l ih =>
    rw [List.map_cons, get?_cons, List.find?_cons, BEq.comm, ih]
    cases f b == k <;> rfl

/-- An entry gives the value of its key if none behind it has the same key. -/
lemma get?_ofList_append {after : List (κ × α)} (h : ∀ e ∈ after, (k == e.1) = false)
    (before : List (κ × α)) (v : α) : get? (ofList (before ++ (k, v) :: after)) k = some v := by
  have hnone : get? after.reverse k = none :=
    get?_eq_none_iff.mpr fun e he => h e (List.mem_reverse.mp he)
  rw [get?_ofList, List.reverse_append, List.reverse_cons, get?_append, get?_append, hnone,
    Option.none_or, get?_cons, if_pos BEq.rfl, Option.some_or]

end Equiv

/-- The first entry for a key gives its place. -/
lemma keys_ofList [LawfulBEq κ] (entries : List (κ × α)) :
    keys (ofList entries) = (keys entries).eraseDups := by
  induction entries using List.reverseRecOn with
  | nil => rfl
  | append_singleton entries e ih =>
    have hkeys : keys (entries ++ [e]) = keys entries ++ [e.1] := List.map_append
    rw [ofList_concat, keys_insert, ih, hkeys, List.eraseDups_append]
    by_cases h : e.1 ∈ keys entries
    · simp [List.removeAll, h]
    · simp [List.removeAll, h, List.eraseDups_cons]

end FeatureDocs.Mapping
