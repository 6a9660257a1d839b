import FeatureDocs.Decimal.Shortest
import FeatureDocs.Mapping
import FeatureDocs.Text.Basic

/-!
# Values

The values that settings and keyword datasets are made of: what a data file holds once it is read.
A key counts as the same as another also when one is a truth value and the other the number it
stands for.
-/

namespace FeatureDocs

/-- A key of a mapping. -/
inductive Key
  | null
  | bool (b : Bool)
  | int (i : Int)
  | text (t : Text)
  deriving DecidableEq

namespace Key

instance : Coe Text Key := ⟨.text⟩

/-- The key with a truth value replaced by the number it stands for. -/
def canonical : Key → Key
  | .bool true => .int 1
  | .bool false => .int 0
  | k => k

instance : BEq Key := ⟨fun a b => decide (a.canonical = b.canonical)⟩

theorem beq_iff_canonical_eq {a b : Key} : (a == b) = true ↔ a.canonical = b.canonical := by
  simp [BEq.beq]

instance : EquivBEq Key where
  rfl := by simp [beq_iff_canonical_eq]
  symm h := by simp_all [beq_iff_canonical_eq]
  trans h₁ h₂ := by simp_all [beq_iff_canonical_eq]

end Key

/-- A value. A number with a fraction is given by the bits of its double-precision form. -/
inductive Value
  | null
  | bool (b : Bool)
  | int (i : Int)
  | real (bits : UInt64)
  | text (t : Text)
  | list (items : List Value)
  | mapping (entries : List (Key × Value))

/-- A mapping from keys to values: the settings of one section. -/
abbrev Section := Mapping Key Value

namespace Value

instance : Inhabited Value := ⟨.null⟩

instance : Coe Text Value := ⟨.text⟩

/-- The mapping that a value is. -/
def section? : Value → Option Section
  | .mapping entries => some entries
  | _ => none

/-- The text that a value is. -/
def text? : Value → Option Text
  | .text t => some t
  | _ => none

/-- Whether a value counts as empty: nothing, a falsehood, a zero, an empty text or container. -/
def isEmpty : Value → Bool
  | .null => true
  | .bool b => !b
  | .int i => i == 0
  | .real bits => Decimal.sizeBits bits == 0
  | .text t => t.isEmpty
  | .list items => items.isEmpty
  | .mapping entries => entries.isEmpty

/-- The name that messages use for the kind of a value. -/
def kindName : Value → Text
  | .null => "NoneType"
  | .bool _ => "bool"
  | .int _ => "int"
  | .real _ => "float"
  | .text _ => "str"
  | .list _ => "list"
  | .mapping _ => "dict"

/-! ### Values inside values -/

/-- The value at a path of keys. -/
def at? : Value → List Key → Option Value
  | v, [] => some v
  | .mapping entries, k :: path =>
    match Mapping.get? entries k with
    | some v => at? v path
    | none => none
  | _, _ :: _ => none

/-- The value at the path whose keys are written with dots between them. -/
def atDotted? (v : Value) (path : Text) : Option Value :=
  v.at? ((Text.splitOn '.' path).map Key.text)

@[simp] theorem at?_nil (v : Value) : v.at? [] = some v := by cases v <;> rfl

theorem at?_mapping_cons (entries : Section) (k : Key) (path : List Key) :
    (Value.mapping entries).at? (k :: path) =
      (Mapping.get? entries k).bind (·.at? path) := by
  simp only [at?]
  cases Mapping.get? entries k <;> rfl

end Value

end FeatureDocs
