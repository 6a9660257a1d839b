import FeatureDocs.Document.Reading
import FeatureDocs.Log.Basic
import FeatureDocs.Text.Lines

/-!
# Outcomes

Parsing a document is reading it and then finding an implementation for each feature that was
begun. What is found, or fails to be found, has no influence on what is rejected
(`KeywordTable.parse_rejection`).
-/

namespace FeatureDocs

/-! ### Finding implementations -/

/-- What a search for an implementation gives: it, nothing, or a failure with its message. -/
abbrev Lookup := Except Text (Option Handle)

/-- The implementation that was found. -/
def Lookup.handle? : Lookup → Option Handle
  | .ok handle => handle
  | .error _ => none

/-- Finds implementations by the names of features; searches are numbered within a document. -/
abbrev Resolver := Nat → Text → Lookup

/-- The resolver whose answer depends on the name alone. -/
def Resolver.ofName (find : Text → Lookup) : Resolver := fun _ name => find name

/-- The resolver for what is left to look for, when it was asked `n` times before. -/
def Resolver.skip (resolver : Resolver) (n : Nat) : Resolver := fun i name => resolver (i + n) name

/-- A resolver that looks at names alone does not know how often it was asked. -/
@[simp] theorem Resolver.skip_ofName (find : Text → Lookup) (n : Nat) :
    (Resolver.ofName find).skip n = Resolver.ofName find := rfl

theorem Resolver.map_skip_ofName (find : Option (Text → Lookup)) (n : Nat) :
    (find.map Resolver.ofName).map (·.skip n) = find.map Resolver.ofName := by
  cases find <;> rfl

theorem Resolver.map_skip_zero (resolver : Option Resolver) :
    resolver.map (·.skip 0) = resolver := by
  cases resolver <;> rfl

/-- What is left of what is left. -/
theorem Resolver.map_skip_skip (resolver : Option Resolver) (m n : Nat) :
    (resolver.map (·.skip m)).map (·.skip n) = resolver.map (·.skip (m + n)) := by
  cases resolver with
  | none => rfl
  | some find =>
    simp only [Option.map_some, Option.some.injEq]
    funext i name
    rw [skip, skip, skip, Nat.add_assoc, Nat.add_comm n m]

/-- What is said about a search that failed. -/
def Lookup.log (name : Text) : Lookup → Log
  | .ok _ => []
  | .error message =>
    [⟨.warning, "Could not resolve step definitions for '" ++ name ++ "': " ++ message⟩]

/-! ### Outcomes -/

/-- What became of a document: its features, and why the rest was rejected. -/
structure Outcome where
  features : List Feature := []
  rejection : Option Rejection := none
  source : Text := []

namespace Outcome

/-- Whether the whole document was accepted. -/
def ok (o : Outcome) : Bool := o.rejection.isNone

/-- One line about an outcome. -/
def describe (o : Outcome) : Text :=
  (if o.source.isEmpty then "<document>" else o.source : Text) ++ ": " ++
    match o.rejection with
    | none => Text.ofNat o.features.length ++ " feature(s)"
    | some r => r.message

/-- The outcomes of rejected documents. -/
def failures (os : List Outcome) : List Outcome := os.filter (!·.ok)

end Outcome

/-! ### Parsing -/

/-- An outcome, the names that implementations were looked for, and what was said. -/
structure Parsing where
  outcome : Outcome
  asked : List Text
  log : Log

/-- The names of the features that were begun. -/
def Reading.names (r : Reading) : List Text := r.features.map (·.name) ++ r.abandoned.toList

/-- The search for the implementation of the feature with the given number. -/
def lookupAt (resolver : Option Resolver) (i : Nat) (name : Text) : Lookup :=
  match resolver with
  | some find => find i name
  | none => .ok none

/-- The feature with the place it was read from and the implementation that was found. -/
def Feature.bind (f : Feature) (source : Text) (found : Lookup) : Feature :=
  { f with file := source, implementation := found.handle? }

/-- What is said about a complete feature. -/
def Feature.log (f : Feature) : Log :=
  [⟨.debug, "Parsed feature: " ++ f.name ++ " (" ++ Text.ofNat f.scenarios.length ++
    " scenarios, " ++ Text.ofNat f.outlines.length ++ " outlines)"⟩]

/-- What is said about a rejection. -/
def Rejection.log (source : Text) (r : Rejection) : Log :=
  [⟨.error, "Rejected " ++ (if source.isEmpty then "document" else source : Text) ++ ": " ++
    r.kindName ++ ": " ++ r.message⟩]

/-- Find the implementations of all that was read. -/
def Reading.parsing (r : Reading) (resolver : Option Resolver) (source : Text) : Parsing :=
  let found := r.names.mapIdx (lookupAt resolver)
  { outcome :=
      { features := r.features.mapIdx fun i f => f.bind source (lookupAt resolver i f.name)
        rejection := r.rejection
        source }
    asked := if resolver.isSome then r.names else []
    log :=
      (r.features.zip found).flatMap (fun (f, l) => l.log f.name ++ f.log) ++
        (r.abandoned.toList.zip (found.drop r.features.length)).flatMap
          (fun (name, l) => l.log name) ++
        r.rejection.toList.flatMap (·.log source) }

/-- Parse a document. -/
def KeywordTable.parse (k : KeywordTable) (resolver : Option Resolver) (document : Source)
    (source : Text) : Parsing :=
  (k.read document.toLines).parsing resolver source

/-- Whether and why a document is rejected does not depend on the resolver. -/
theorem KeywordTable.parse_rejection (k : KeywordTable) (resolver : Option Resolver)
    (document : Source) (source : Text) :
    (k.parse resolver document source).outcome.rejection = (k.read document.toLines).rejection :=
  rfl

end FeatureDocs
