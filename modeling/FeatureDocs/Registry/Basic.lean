import FeatureDocs.Document.Outcome
import FeatureDocs.Registry.Provider

/-!
# Registries

A registry finds the implementation of a feature by the feature's name, whatever its case and the
blanks around it. The last registration of a name counts. Registrations may come from settings,
where each names a member of a provider.
-/

namespace FeatureDocs

/-- One registration. -/
structure Registration where
  feature : Text
  handle : Option Handle
  source : Text

/-- The registrations by the keys of their names. -/
structure Registry where
  entries : Mapping Text Registration := []

namespace Registry

/-- What counts of the name of a feature. -/
def key (feature : Text) : Text := Text.lower (Text.trim feature)

/-- Where registrations come from that nothing is known about. -/
def defaultSource : Text := "code"

/-- How messages show what is registered. -/
def shownHandle : Option Handle → Text
  | some handle => handle.plain
  | none => "None"

/-- The registry with one more registration, which replaces an older one of its name. -/
def register (r : Registry) (feature : Text) (handle : Option Handle) (source : Text) :
    Registry × Log :=
  let replacing : Log :=
    if Mapping.contains r.entries (key feature) then
      [⟨.warning, "Replacing step definitions for feature: " ++ feature⟩]
    else []
  ({ entries := Mapping.insert r.entries (key feature) { feature, handle, source } },
    replacing ++
      [⟨.info, "Registered step definitions: " ++ feature ++ " -> " ++ shownHandle handle⟩])

/-- The implementation that is registered for a feature. -/
def resolve (r : Registry) (feature : Text) : Option Handle :=
  (Mapping.get? r.entries (key feature)).bind (·.handle)

/-- The resolver that looks into a registry. -/
def resolver (r : Registry) : Resolver := .ofName fun name => .ok (r.resolve name)

/-- The names of the registered features in ascending order. -/
def features (r : Registry) : List Text :=
  Text.sort ((Mapping.values r.entries).map (·.feature))

/-- The number of registered features. -/
def size (r : Registry) : Nat := r.entries.length

/-! ### Registrations from settings -/

/-- Why settings cannot be registered. -/
inductive Error
  /-- The settings are no mapping. -/
  | notAMapping (v : Value)
  /-- What a feature is mapped to is no text. -/
  | targetNotText (target : Value)
  /-- What a feature is mapped to names no provider. -/
  | notDotted (feature : Key) (target : Text)
  /-- The implementation cannot be found. -/
  | provider (e : Providers.Error)
  /-- The name of the feature is no text. -/
  | featureNotText (feature : Key)

/-- The name that messages use for the kind of a key. -/
def keyKindName : Key → Text
  | .null => "NoneType"
  | .bool _ => "bool"
  | .int _ => "int"
  | .text _ => "str"

/-- The wording of an error. -/
def Error.message : Error → Text
  | .notAMapping v => "'" ++ v.kindName ++ "' object has no attribute 'items'"
  | .targetNotText target => "'" ++ target.kindName ++ "' object has no attribute 'rpartition'"
  | .notDotted feature target =>
    "Step definitions for '" ++ feature.plain ++ "' must be a dotted path, got '" ++ target ++ "'"
  | .provider e => e.message
  | .featureNotText feature => "'" ++ keyKindName feature ++ "' object has no attribute 'strip'"

/-- What one setting registers: the feature, its implementation and the place of that. -/
def registrationOf (ps : Providers) (feature : Key) : Value → Except Error Registration
  | .text target =>
    match Text.cutLast? '.' target with
    | none | some ([], _) => .error (.notDotted feature target)
    | some (provider, member) =>
      match ps.find provider member with
      | .error e => .error (.provider e)
      | .ok handle =>
        match feature with
        | .text name => .ok { feature := name, handle, source := target }
        | _ => .error (.featureNotText feature)
  | target => .error (.targetNotText target)

/-- Register the settings in order, up to the first that cannot be registered. -/
def registerEntries (ps : Providers) (r : Registry) : Section → Registry × Log × Option Error
  | [] => (r, [], none)
  | (feature, target) :: rest =>
    match registrationOf ps feature target with
    | .error e => (r, [], some e)
    | .ok d =>
      let (r, log) := r.register d.feature d.handle d.source
      let (r, more, e) := registerEntries ps r rest
      (r, log ++ more, e)

/-- Register what the settings of a value say. -/
def registerAll (r : Registry) (ps : Providers) (settings : Value) :
    Registry × Log × Option Error :=
  match settings with
  | .mapping entries => registerEntries ps r entries
  | v => (r, [], if v.isEmpty then none else some (.notAMapping v))

end Registry

end FeatureDocs
