import FeatureDocs.Text.Basic

/-!
# Paths

A path is the sequence of its parts, from a directory that everything is relative to or from the
root. Empty parts and single dots leave no trace, two dots stay.
-/

namespace FeatureDocs

/-- A path. The slashes at its start, if there are any, make it start from the root. -/
structure Path where
  root : Text := []
  parts : List Text
  deriving DecidableEq

namespace Path

/-- What the slashes at the start of a path stand for: exactly two of them for themselves. -/
def rootOf (t : Text) : Text :=
  match (t.takeWhile (· = '/')).length with
  | 0 => []
  | 2 => "//"
  | _ => "/"

/-- The path that a text names. -/
def ofText (t : Text) : Path :=
  { root := rootOf t, parts := (Text.splitOn '/' t).filter fun p => p ≠ [] ∧ p ≠ ['.'] }

/-- The text that names a path. -/
def toText (p : Path) : Text :=
  if p.root = [] ∧ p.parts = [] then "." else p.root ++ Text.join "/" p.parts

/-- The path of the directory that a path is in. -/
def parent (p : Path) : Path := { p with parts := p.parts.dropLast }

/-- The path that another one leads to from here. -/
def append (p q : Path) : Path :=
  if q.root = [] then { p with parts := p.parts ++ q.parts } else q

instance : Append Path := ⟨append⟩

/-- The path of something inside. -/
def child (p : Path) (name : Text) : Path := { p with parts := p.parts ++ [name] }

/-! ### Order -/

/-- Sequences of parts in the order of their first different parts. -/
def partsLe : List Text → List Text → Bool
  | [], _ => true
  | _ :: _, [] => false
  | p :: ps, q :: qs => if p = q then partsLe ps qs else Text.le p q

/-- Paths in the order of their parts. -/
def le (p q : Path) : Bool :=
  if p.root = q.root then partsLe p.parts q.parts else Text.le p.root q.root

/-- The paths in ascending order. -/
def sort (ps : List Path) : List Path := ps.mergeSort le

end Path

end FeatureDocs
