import FeatureDocs.Registry.Handle

/-!
# Providers

A provider gives names to implementations. Providers are found by dotted names: each part after the
first is looked for inside the provider before it, which has to be a package.
-/

namespace FeatureDocs

/-- A provider with the implementations that it names. -/
structure Provider where
  name : Text
  isPackage : Bool
  members : Mapping Text (Option Handle)

/-- The providers that can be found. -/
abbrev Providers := List Provider

namespace Providers

/-- Why a name leads to no implementation. -/
inductive Error
  /-- The name begins with a dot. -/
  | relative (name : Text)
  /-- No provider has the name. -/
  | missing (name : Text)
  /-- The provider that the name is looked for in is not a package. -/
  | insideProvider (name holder : Text)
  /-- The provider has no such member. -/
  | noMember (provider member : Text)

/-- The wording of an error. -/
def Error.message : Error → Text
  | .relative name =>
    "the 'package' argument is required to perform a relative import for " ++ Text.quoted name
  | .missing name => "No module named " ++ Text.quoted name
  | .insideProvider name holder =>
    "No module named " ++ Text.quoted name ++ "; " ++ Text.quoted holder ++ " is not a package"
  | .noMember provider member =>
    "module '" ++ provider ++ "' has no attribute '" ++ member ++ "'"

/-- The provider with a full name. -/
def named? (ps : Providers) (name : Text) : Option Provider := ps.find? (·.name == name)

/-- The provider that the parts of a name lead to from a provider. -/
def descend (ps : Providers) (p : Provider) : List Text → Except Error Provider
  | [] => .ok p
  | part :: parts =>
    let name := p.name ++ "." ++ part
    if p.isPackage then
      match ps.named? name with
      | some p => descend ps p parts
      | none => .error (.missing name)
    else .error (.insideProvider name p.name)

/-- The provider with a dotted name. -/
def load (ps : Providers) (name : Text) : Except Error Provider :=
  if name.head? = some '.' then .error (.relative name)
  else
    match Text.splitOn '.' name with
    | [] => .error (.missing name)
    | first :: parts =>
      match ps.named? first with
      | some p => descend ps p parts
      | none => .error (.missing first)

/-- The implementation that a member of a provider is. -/
def find (ps : Providers) (provider member : Text) : Except Error (Option Handle) :=
  match ps.load provider with
  | .error e => .error e
  | .ok p =>
    match Mapping.get? p.members member with
    | some handle => .ok handle
    | none => .error (.noMember p.name member)

end Providers

end FeatureDocs
