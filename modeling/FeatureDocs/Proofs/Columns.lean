import FeatureDocs.Document.DataTable
import FeatureDocs.Proofs.Mappings
import Mathlib.Data.List.Forall2

/-!
# Rows under the names of their columns

Rows that are added to a table one by one leave it as wide as its header, for a row of another width
changes nothing (`DataTable.offerAll_eq`). Each row of such a table is a mapping from the names of
the columns, in their order, to its cells; a name that comes twice has the cell of its last column
(`DataTable.asMappings_columns`).
-/

namespace FeatureDocs.DataTable

variable {t : DataTable} {row : List Text} {name : Text} {i : Nat}

/-! ### Rows that are added -/

/-- The table after a row was to be added: as it was, if the row has another width. -/
def offer (t : DataTable) (row : List Text) : DataTable :=
  match t.addRow row with
  | .ok u => u
  | .error _ => t

/-- The table after rows were to be added one by one. -/
def offerAll (t : DataTable) (rows : List (List Text)) : DataTable := rows.foldl offer t

/-- All rows are as wide as the header. -/
def Rectangular (t : DataTable) : Prop := ∀ row ∈ t.rows, row.length = t.width

instance (t : DataTable) : Decidable t.Rectangular :=
  inferInstanceAs (Decidable (∀ row ∈ t.rows, _))

lemma offer_of_eq (h : row.length = t.width) :
    t.offer row = { t with rows := t.rows ++ [row] } := by
  rw [offer, addRow, if_pos h]

lemma offer_of_ne (h : row.length ≠ t.width) : t.offer row = t := by
  rw [offer, addRow, if_neg h]

/-- Of the rows that were to be added, those that are as wide as the header are there, in order. -/
lemma offerAll_eq (t : DataTable) (rows : List (List Text)) :
    t.offerAll rows = { t with rows := t.rows ++ rows.filter (·.length == t.width) } := by
  induction rows generalizing t with
  | nil => simp [offerAll]
  | cons row rows ih =>
    have hcons : t.offerAll (row :: rows) = (t.offer row).offerAll rows := rfl
    by_cases h : row.length = t.width
    · have hheader : row.length = t.header.length := h
      rw [hcons, ih, offer_of_eq h]
      simp [width, hheader]
    · rw [hcons, ih, offer_of_ne h]
      simp [h]

/-- A table stays rectangular whatever rows it is offered. -/
lemma Rectangular.offerAll (h : t.Rectangular) (rows : List (List Text)) :
    (t.offerAll rows).Rectangular := by
  rw [offerAll_eq]
  intro row hrow
  rcases List.mem_append.mp hrow with hrow | hrow
  · exact h row hrow
  · exact beq_iff_eq.mp (List.mem_filter.mp hrow).2

/-! ### Columns -/

/-- The column is the last one with the name. -/
def LastColumn (t : DataTable) (name : Text) (i : Nat) : Prop :=
  t.header[i]? = some name ∧ name ∉ t.header.drop (i + 1)

instance (t : DataTable) (name : Text) (i : Nat) : Decidable (t.LastColumn name i) :=
  inferInstanceAs (Decidable (_ ∧ _))

lemma eq_take_append_cons {cells : List Text} {cell : Text} (h : cells[i]? = some cell) :
    cells = cells.take i ++ cell :: cells.drop (i + 1) := by
  obtain ⟨hlt, rfl⟩ := List.getElem?_eq_some_iff.mp h
  rw [← List.drop_eq_getElem_cons hlt, List.take_append_drop]

lemma lastColumn_of_nodup (h : t.header.Nodup) (hi : t.header[i]? = some name) :
    t.LastColumn name i := by
  rw [eq_take_append_cons hi, List.nodup_append] at h
  exact ⟨hi, (List.nodup_cons.mp h.2.1).1⟩

/-- The keys of a row are the names of the header, each where it first occurs. -/
lemma keys_row (h : row.length = t.width) :
    Mapping.keys (Mapping.ofList (t.header.zip row)) = t.header.eraseDups := by
  rw [Mapping.keys_ofList]
  exact congrArg List.eraseDups (List.map_fst_zip (Nat.le_of_eq h.symm))

lemma exists_cell (h : row.length = t.width) (hi : t.header[i]? = some name) :
    ∃ cell, row[i]? = some cell := by
  obtain ⟨hlt, -⟩ := List.getElem?_eq_some_iff.mp hi
  exact ⟨_, List.getElem?_eq_getElem (by rwa [h])⟩

/-- A row has under each name the cell of the last column with that name. -/
lemma get?_row (h : row.length = t.width) (hlast : t.LastColumn name i) :
    Mapping.get? (Mapping.ofList (t.header.zip row)) name = row[i]? := by
  obtain ⟨hi, hlater⟩ := hlast
  obtain ⟨cell, hcell⟩ := exists_cell h hi
  -- the row is split at the last column of that name: nothing behind it has the same key
  have hzip : t.header.zip row = (t.header.take i).zip (row.take i) ++
      (name, cell) :: (t.header.drop (i + 1)).zip (row.drop (i + 1)) := by
    have hlength : (t.header.take i).length = (row.take i).length := by
      rw [List.length_take, List.length_take, h, width]
    conv_lhs => rw [eq_take_append_cons hi, eq_take_append_cons hcell]
    rw [List.zip_append hlength, List.zip_cons_cons]
  rw [hzip, hcell]
  apply Mapping.get?_ofList_append
  rintro ⟨name', cell'⟩ he
  obtain ⟨hname, -⟩ := List.of_mem_zip he
  rw [beq_eq_false_iff_ne]
  rintro rfl
  exact hlater hname

/-- Where all columns have names of their own, a row is what its mapping has under the header. -/
lemma map_get?_row (hnodup : t.header.Nodup) (h : row.length = t.width) :
    t.header.map (Mapping.get? (Mapping.ofList (t.header.zip row))) = row.map some := by
  apply List.ext_getElem?
  intro i
  rw [List.getElem?_map, List.getElem?_map]
  cases hi : t.header[i]? with
  | none =>
    have hlength : row.length ≤ i := by
      rw [h]
      exact List.getElem?_eq_none_iff.mp hi
    rw [List.getElem?_eq_none hlength, Option.map_none, Option.map_none]
  | some name =>
    obtain ⟨cell, hcell⟩ := exists_cell h hi
    rw [Option.map_some, get?_row h (lastColumn_of_nodup hnodup hi), hcell, Option.map_some]

/-- If all rows are as wide as the header, each row in order is a mapping. Its keys are the names of
the columns, each where it stands first, and a name has the cell of its last column. If no two
columns have one name, the mappings give the rows back along the header. Whatever rows are added to
a table that has none, all its rows are as wide as the header: they are those that are so of the
ones that were to be added. -/
theorem asMappings_columns :
    (∀ t : DataTable, t.Rectangular →
      List.Forall₂ (fun row m => Mapping.keys m = t.header.eraseDups ∧
        ∀ name i, t.LastColumn name i → Mapping.get? m name = row[i]?) t.rows t.asMappings ∧
      (t.header.Nodup →
        t.asMappings.map (fun m => t.header.map (Mapping.get? m)) = t.rows.map (·.map some))) ∧
    ∀ (header : List Text) (rows : List (List Text)),
      offerAll ⟨header, []⟩ rows = ⟨header, rows.filter (·.length == header.length)⟩ ∧
        (offerAll ⟨header, []⟩ rows).Rectangular := by
  constructor
  · intro t ht
    constructor
    · rw [asMappings, List.forall₂_map_right_iff, List.forall₂_same]
      intro row hrow
      exact ⟨keys_row (ht row hrow), fun name i => get?_row (ht row hrow)⟩
    · intro hnodup
      rw [asMappings, List.map_map]
      apply List.map_congr_left
      intro row hrow
      exact map_get?_row hnodup (ht row hrow)
  · intro header rows
    have hempty : Rectangular ⟨header, []⟩ := List.forall_mem_nil _
    exact ⟨offerAll_eq _ _, hempty.offerAll rows⟩

/-- A name that three columns share, and a row that is not as wide as the header. -/
theorem asMappings_columns_repeated :
    let header : List Text := ["a", "b", "a", "", "a"]
    let rows : List (List Text) := [["1", "2", "3", "4", "5"], ["6"], ["7", "", "8", "9", ""]]
    let t := offerAll ⟨header, []⟩ rows
    let u : DataTable := ⟨["a", "b"], [["1", "2"], ["3", ""]]⟩
    t = ⟨header, [["1", "2", "3", "4", "5"], ["7", "", "8", "9", ""]]⟩ ∧ t.Rectangular ∧
      List.Forall₂ (fun row m => Mapping.keys m = (["a", "b", ""] : List Text) ∧
        Mapping.get? m "a" = row[4]? ∧ Mapping.get? m "b" = row[1]?) t.rows t.asMappings ∧
      u.Rectangular ∧ u.header.Nodup ∧
      u.asMappings.map (fun m => u.header.map (Mapping.get? m)) = u.rows.map (·.map some) := by
  intro header rows t u
  obtain ⟨hreads, hbuilt⟩ := asMappings_columns
  obtain ⟨ht, hrectangular⟩ := hbuilt header rows
  have hu : u.Rectangular := by decide
  have hnodup : u.header.Nodup := by decide
  refine ⟨ht, hrectangular, ?_, hu, hnodup, (hreads u hu).2 hnodup⟩
  refine (hreads t hrectangular).1.imp ?_
  rintro row m ⟨hkeys, hlast⟩
  have hheader : t.header = header := congrArg DataTable.header ht
  refine ⟨?_, hlast "a" 4 ?_, hlast "b" 1 ?_⟩
  · rw [hkeys, hheader]
    decide
  · rw [LastColumn, hheader]
    decide
  · rw [LastColumn, hheader]
    decide

end FeatureDocs.DataTable
