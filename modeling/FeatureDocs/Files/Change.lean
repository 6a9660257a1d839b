import FeatureDocs.Files.Tree

/-!
# Changes of file trees

What is written makes the directories it needs, one by one along the text of its path. A change that
fails leaves what was made before.
-/

namespace FeatureDocs

namespace Tree

/-- The tree that is left, and why it is not as it should be. -/
abbrev Change := Tree × Option Error

/-- The tree with a node in a directory that is there. -/
def put (t : Tree) (names : List Text) (n : Node) : Tree :=
  { nodes := Mapping.insert t.nodes names n }

/-- The beginnings of a path's text that end with one of its parts. What comes before the text is
given from its last character on. -/
def beginningsFrom (before : Text) : Text → List Text
  | [] => if before.head?.any (· ≠ '/') then [before.reverse] else []
  | c :: rest =>
    if c = '/' ∧ before.head?.any (· ≠ '/') then
      before.reverse :: beginningsFrom (c :: before) rest
    else beginningsFrom (c :: before) rest

/-- The beginnings of a path's text that end with one of its parts. -/
def beginnings (path : Text) : List Text := beginningsFrom [] path

/-- Make the directories with the given paths where there are none, each inside the one before, up
to the first that cannot be made. -/
def makeDirectories (t : Tree) : List Text → Change
  | [] => (t, none)
  | path :: rest =>
    match t.locate path with
    | .found _ .directory => makeDirectories t rest
    | .found _ (.file _) | .found _ .sink =>
      if rest.isEmpty then (t, some (.exists path)) else makeDirectories t rest
    | .vacant names => makeDirectories (t.put names .directory) rest
    | .missing => (t, some (.missing path))
    | .blocked => (t, some (.notADirectory path))
    | .tooLong => (t, some (.tooLong path))
    | .malformed => (t, some .nullCharacter)

/-- Make a directory where there is none, and those that lead to it. -/
def makeDirectory (t : Tree) (path : Text) : Change :=
  if path = [] then (t, some (.missing path)) else t.makeDirectories (beginnings path)

/-- The part of a path's text that names the directory. -/
def directoryText (path : Text) : Text :=
  let head := (path.reverse.dropWhile (· ≠ '/')).reverse
  if head.all (· = '/') then head else (head.reverse.dropWhile (· = '/')).reverse

/-- Make the directories that a path leads through. -/
def prepare (t : Tree) (path : Text) : Change :=
  t.makeDirectories (beginnings (directoryText path))

/-- Put content into a file, which need not be there, in a directory that is. -/
def store (t : Tree) (path : Text) (c : Content) : Change :=
  match t.locate path with
  | .found names (.file _) | .vacant names => (t.put names (.file c), none)
  | .found _ .sink => (t, none)
  | .found _ .directory => (t, some (.isADirectory path))
  | .missing => (t, some (.missing path))
  | .blocked => (t, some (.notADirectory path))
  | .tooLong => (t, some (.tooLong path))
  | .malformed => (t, some .nullCharacter)

/-- Write a node, making the directories that it needs. A sink cannot be made. -/
def write (t : Tree) (path : Text) (n : Node) : Change :=
  match t.prepare path, n with
  | (t, some e), _ => (t, some e)
  | (t, none), .file c => t.store path c
  | (t, none), .directory => t.makeDirectory path
  | (t, none), .sink => (t, none)

/-- The tree without the file at a path. -/
def remove (t : Tree) (path : Text) : Change :=
  match t.locate path, t.content path with
  | .found names _, .ok _ => ({ nodes := Mapping.erase t.nodes names }, none)
  | _, .ok _ => (t, none)
  | _, .error e => (t, some e)

end Tree

end FeatureDocs
