import FeatureDocs.Text.Basic

/-!
# JSON documents

A JSON document as a tree. The members of an object keep their order, and a number with a fraction
or an exponent keeps its digits.
-/

namespace FeatureDocs

/-- A JSON document. `decimal` is a signed number of digits times a power of ten. -/
inductive Json
  | null
  | bool (b : Bool)
  | int (i : Int)
  | decimal (negative : Bool) (digits : Nat) (exponent : Int)
  | text (t : Text)
  | array (items : List Json)
  | object (members : List (Text × Json))

namespace Json

instance : Inhabited Json := ⟨.null⟩

/-- A number of things. -/
def nat (n : Nat) : Json := .int n

/-- A member of an object. -/
def member (name : Text) (j : Json) : Text × Json := (name, j)

/-- A list of texts. -/
def texts (ts : List Text) : Json := .array (ts.map .text)

/-- A document where there is one, else nothing. -/
def ofOption (j : Option Json) : Json := j.getD .null

/-- The member of an object with the given name. -/
def member? : Json → Text → Option Json
  | .object members, name => members.lookup name
  | _, _ => none

end Json

end FeatureDocs
