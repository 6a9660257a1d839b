import FeatureDocs.Value.Basic

/-!
# Variables in settings

A text of the form `${NAME}` or `${NAME:-default}` stands for the value of a variable. Without a
value it stands for its default, or for itself if it has none.
-/

namespace FeatureDocs

/-- The values of variables. -/
abbrev Environment := Mapping Text Text

namespace Environment

/-- Why a variable cannot be set. -/
inductive Error
  | nullCharacter
  | equalsSign
  | noName

/-- The wording of an error. -/
def Error.message : Error → Text
  | .nullCharacter => "embedded null byte"
  | .equalsSign => "illegal environment variable name"
  | .noName => "[Errno 22] Invalid argument"

/-- The environment with a variable set. A variable has a name without an equals sign, and neither
its name nor its value has a null character. -/
def set (env : Environment) (name value : Text) : Except Error Environment :=
  if '\x00' ∈ name ∨ '\x00' ∈ value then .error .nullCharacter
  else if '=' ∈ name then .error .equalsSign
  else if name = [] then .error .noName
  else .ok (Mapping.insert env name value)

end Environment

namespace Config

/-- A reference to a variable. -/
structure Reference where
  name : Text
  fallback : Option Text

/-- The reference that a text is. -/
def reference? (t : Text) : Option Reference :=
  match t with
  | '$' :: '\x7b' :: rest =>
    if rest.getLast? = some '\x7d' then
      match Text.cut? ":-" rest.dropLast with
      | some (name, fallback) => some ⟨name, some fallback⟩
      | none => some ⟨rest.dropLast, none⟩
    else none
  | _ => none

/-- What a text stands for. -/
def expandText (env : Environment) (t : Text) : Text :=
  match reference? t with
  | some r => (Mapping.get? env r.name).getD (r.fallback.getD t)
  | none => t

mutual

/-- The value with every text replaced by what it stands for; keys stay as they are. -/
def expand (env : Environment) : Value → Value
  | .text t => .text (expandText env t)
  | .list items => .list (expandItems env items)
  | .mapping entries => .mapping (expandEntries env entries)
  | .null => .null
  | .bool b => .bool b
  | .int i => .int i
  | .real bits => .real bits

/-- The items of a list, each replaced. -/
def expandItems (env : Environment) : List Value → List Value
  | [] => []
  | v :: vs => expand env v :: expandItems env vs

/-- The entries of a mapping, their values replaced. -/
def expandEntries (env : Environment) : List (Key × Value) → List (Key × Value)
  | [] => []
  | (k, v) :: es => (k, expand env v) :: expandEntries env es

end

theorem expandItems_eq_map (env : Environment) (items : List Value) :
    expandItems env items = items.map (expand env) := by
  induction items with
  | nil => rfl
  | cons v items ih => rw [expandItems, ih, List.map_cons]

theorem expandEntries_eq_map (env : Environment) (entries : Section) :
    expandEntries env entries = entries.map fun e => (e.1, expand env e.2) := by
  induction entries with
  | nil => rfl
  | cons e entries ih =>
    obtain ⟨k, v⟩ := e
    rw [expandEntries, ih, List.map_cons]

mutual

/-- The names of the variables that a value refers to. -/
def mentioned : Value → List Text
  | .text t => ((reference? t).map (·.name)).toList
  | .list items => mentionedItems items
  | .mapping entries => mentionedEntries entries
  | .null | .bool _ | .int _ | .real _ => []

/-- The names that the items of a list refer to. -/
def mentionedItems : List Value → List Text
  | [] => []
  | v :: vs => mentioned v ++ mentionedItems vs

/-- The names that the values of a mapping refer to. -/
def mentionedEntries : List (Key × Value) → List Text
  | [] => []
  | (_, v) :: es => mentioned v ++ mentionedEntries es

end

end Config

end FeatureDocs
