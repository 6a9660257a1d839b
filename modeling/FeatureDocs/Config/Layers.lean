import FeatureDocs.Value.Printer

/-!
# Layers of settings

Settings are laid over one another. Merging goes into mappings that both layers have and otherwise
takes the upper value; an override replaces single keys of a section, or a whole section where one
of the two is no mapping.
-/

namespace FeatureDocs

namespace Config

/-! ### Merging -/

mutual

/-- The value that results from laying one over what is there, if anything is. -/
def mergeValue (base : Option Value) : Value → Value
  | .mapping entries =>
    match base with
    | some (.mapping m) => .mapping (mergeEntries m entries)
    | _ => .mapping (mergeEntries [] entries)
  | v => v

/-- The mapping that results from laying entries over another one, in order. -/
def mergeEntries (base : Section) : List (Key × Value) → Section
  | [] => base
  | (k, v) :: rest =>
    mergeEntries (Mapping.insert base k (mergeValue (Mapping.get? base k) v)) rest

end

/-- The mapping that results from laying one over another. -/
def merge (base upper : Section) : Section := mergeEntries base upper

/-! ### Overrides -/

/-- The section with the values of some keys replaced. -/
def replaceKeys (base : Section) (entries : Section) : Section :=
  entries.foldl (fun m e => Mapping.insert m e.1 e.2) base

/-- The value of a section that is overridden. -/
def overrideValue (base : Option Value) (upper : Value) : Value :=
  match base, upper with
  | some (.mapping m), .mapping entries => .mapping (replaceKeys m entries)
  | _, upper => upper

/-- The settings with sections overridden. -/
def override (base overrides : Section) : Section :=
  overrides.foldl (fun m e => Mapping.insert m e.1 (overrideValue (Mapping.get? m e.1) e.2)) base

@[simp] theorem mergeEntries_nil (base : Section) : mergeEntries base [] = base := by
  simp [mergeEntries]

theorem mergeEntries_cons (base : Section) (k : Key) (v : Value) (rest : Section) :
    mergeEntries base ((k, v) :: rest) =
      mergeEntries (Mapping.insert base k (mergeValue (Mapping.get? base k) v)) rest := by
  simp [mergeEntries]

end Config

end FeatureDocs
