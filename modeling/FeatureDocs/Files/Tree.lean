import FeatureDocs.Files.Content
import FeatureDocs.Files.Path
import FeatureDocs.Text.Quoted

/-!
# File trees

The files and directories below one directory, the top. Looking for a path follows its parts from
there; two dots lead back to the directory above. Above the top there are directories, of which
nothing else is known than what is written there. There are limits to the bytes of a part and of a
whole path, and no path has a null character.
-/

namespace FeatureDocs

/-- A file, a directory, or the sink, which holds nothing and takes everything. -/
inductive Node
  | file (c : Content)
  | directory
  | sink

/-- Whether a node is a directory. -/
def Node.isDirectory : Node → Bool
  | .directory => true
  | .file _ | .sink => false

/-- The nodes below a directory, each with the names that lead to it. Names that lead away from
what is below begin with two dots, for the directory above, or with a slash, for the root. -/
structure Tree where
  nodes : Mapping (List Text) Node := []

namespace Tree

/-- Why a file cannot be read or written. The path is the one that was asked for. -/
inductive Error
  | missing (path : Text)
  | exists (path : Text)
  | notADirectory (path : Text)
  | isADirectory (path : Text)
  | tooLong (path : Text)
  | nullCharacter
  | content (e : Content.Error)

/-- The wording of an error. -/
def Error.message : Error → Text
  | .missing path => "[Errno 2] No such file or directory: " ++ Text.quoted path
  | .exists path => "[Errno 17] File exists: " ++ Text.quoted path
  | .notADirectory path => "[Errno 20] Not a directory: " ++ Text.quoted path
  | .isADirectory path => "[Errno 21] Is a directory: " ++ Text.quoted path
  | .tooLong path => "[Errno 36] File name too long: " ++ Text.quoted path
  | .nullCharacter => "embedded null byte"
  | .content _ => []

/-! ### Looking -/

/-- The part of a path that stays in a directory. -/
def hereName : Text := "."

/-- The part of a path that leads to the directory above. -/
def aboveName : Text := ".."

/-- The name of the root. -/
def rootName : Text := "/"

/-- The names of the directory of devices. -/
def devices : List Text := [rootName, "dev"]

/-- The names of the sink. -/
def sinkNames : List Text := devices ++ [("null" : Text)]

/-- The bytes that a part of a path may have. -/
def partLimit : Nat := 255

/-- The bytes that a path may have. -/
def pathLimit : Nat := 4095

/-- The node that names lead to from the top. -/
def node? (t : Tree) (names : List Text) : Option Node :=
  if names.all (· = aboveName) ∨ names = [rootName] ∨ names = devices then some .directory
  else if names = sinkNames then some .sink
  else Mapping.get? t.nodes names

/-- The names of the directory above. The root is above itself. -/
def above (names : List Text) : List Text :=
  if names.all (· = aboveName) then names ++ [aboveName]
  else if names = [rootName] then names
  else names.dropLast

/-- Where the search for a path ends. -/
inductive Place
  /-- The node at the end of the names. -/
  | found (names : List Text) (n : Node)
  /-- Nothing has the names; all but the last of them lead to a directory. -/
  | vacant (names : List Text)
  /-- A directory on the way is missing. -/
  | missing
  /-- What is in the way is no directory. -/
  | blocked
  /-- A part of the path or the path has more bytes than it may have. -/
  | tooLong
  /-- No path has a null character. -/
  | malformed

/-- The place that parts lead to from the node with the given names. -/
def follow (t : Tree) (names : List Text) : List Text → Place
  | [] =>
    match t.node? names with
    | some n => .found names n
    | none => .vacant names
  | part :: parts =>
    match t.node? names with
    | none => .missing
    | some (.file _) | some .sink => .blocked
    | some .directory =>
      if part = hereName then follow t names parts
      else if part = aboveName then follow t (above names) parts
      else if partLimit < Text.byteSize part then .tooLong
      else follow t (names ++ [part]) parts

/-- The parts of the text of a path. A slash at the end asks for a directory. -/
def partsOf (path : Text) : List Text :=
  (Text.splitOn '/' path).filter (· ≠ []) ++ if path.getLast? = some '/' then [hereName] else []

/-- The place that the text of a path leads to. -/
def locate (t : Tree) (path : Text) : Place :=
  if '\x00' ∈ path then .malformed
  else if path = [] then .missing
  else if pathLimit < Text.byteSize path then .tooLong
  else t.follow (if path.head? = some '/' then [rootName] else []) (partsOf path)

/-- What there is at a path, if anything. A path that is too long cannot be looked at. -/
def lookUp (t : Tree) (p : Path) : Except Error (Option Node) :=
  match t.locate p.toText with
  | .found _ n => .ok (some n)
  | .vacant _ | .missing | .blocked | .malformed => .ok none
  | .tooLong => .error (.tooLong p.toText)

/-- What is directly inside the directory with the given names, each with its own name. -/
def entriesIn (t : Tree) (names : List Text) : List (Text × Node) :=
  t.nodes.filterMap fun (ns, n) =>
    if ns.dropLast = names then ns.getLast?.map fun name => (name, n) else none

/-- What is directly inside the directory at a path, if there is one. A path that is too long cannot
be looked into. -/
def entries (t : Tree) (p : Path) : Except Error (List (Text × Node)) :=
  match t.locate p.toText with
  | .found names .directory => .ok (t.entriesIn names)
  | .tooLong => .error (.tooLong p.toText)
  | _ => .ok []

/-- The names that lead from the node with the first names down to that with the second ones, if it
is below. -/
def below? (names ns : List Text) : Option (List Text) :=
  let rest := ns.drop names.length
  if names.isPrefixOf ns ∧ rest.head?.any (fun n => n ≠ aboveName ∧ n ≠ rootName) then some rest
  else none

/-- The directory at a path and all directories below it. Below a path that is too long nothing can
be found. -/
def directories (t : Tree) (p : Path) : List Path :=
  match t.locate p.toText with
  | .found names .directory =>
    p :: t.nodes.filterMap fun (ns, n) =>
      match n with
      | .directory => (below? names ns).map fun rest => { p with parts := p.parts ++ rest }
      | .file _ | .sink => none
  | .tooLong => [p]
  | _ => []

/-! ### Reading -/

/-- What the file at a path holds. -/
def content (t : Tree) (path : Text) : Except Error Content :=
  match t.locate path with
  | .found _ (.file c) => .ok c
  | .found _ .sink => .ok (.ofText [])
  | .found _ .directory => .error (.isADirectory path)
  | .vacant _ | .missing => .error (.missing path)
  | .blocked => .error (.notADirectory path)
  | .tooLong => .error (.tooLong path)
  | .malformed => .error .nullCharacter

/-- What a view makes of the content of the file at a path. -/
def readAs {α : Type} (view : Content → Except Content.Error α) (t : Tree) (path : Text) :
    Except Error α :=
  match t.content path with
  | .error e => .error e
  | .ok c => (view c).mapError .content

/-- The document in the file at a path. -/
def readDocument (t : Tree) (p : Path) : Except Error Text := t.readAs Content.document p.toText

/-- The data of the file at a path, as a reader finds it. -/
def readData (t : Tree) (read : Text → Except Content.Error Value) (p : Path) :
    Except Error Value :=
  t.readAs (Content.value read) p.toText

/-- The data of the file at a path, if there is anything. -/
def readData? (t : Tree) (read : Text → Except Content.Error Value) (p : Path) :
    Except Error (Option Value) :=
  match t.lookUp p with
  | .error e => .error e
  | .ok none => .ok none
  | .ok (some _) => (t.readData read p).map some

end Tree

end FeatureDocs
