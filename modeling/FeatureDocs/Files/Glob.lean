import FeatureDocs.Files.Tree
import FeatureDocs.Files.Wildcard
import FeatureDocs.Value.Printer

/-!
# Globs

A glob is a pattern for paths below a directory, part by part: a name, a wildcard for names, or two
stars for any number of directories. A slash at the end asks for a directory.
-/

namespace FeatureDocs

/-- One part of a glob. -/
inductive GlobPart
  | name (name : Text)
  | wildcard (w : Wildcard)
  | anyDepth
  | here
  deriving DecidableEq

/-- A pattern for paths. -/
abbrev Glob := List GlobPart

namespace Glob

/-- Why a value is no glob. -/
inductive Error
  /-- The value is empty. -/
  | empty (v : Value)
  /-- The pattern begins at the root. -/
  | absolute
  /-- Two stars stand beside other characters. -/
  | starsInName
  /-- The pattern has no part. -/
  | noPart
  /-- The pattern has no part, and a slash. -/
  | onlySlash
  /-- The value has no first item. -/
  | notAContainer (v : Value)
  /-- The mapping has no value for zero, which would be its first item. -/
  | noFirst
  /-- The value has a slash among its items: as the first one or as another one. -/
  | slashItem (v : Value) (first : Bool)
  /-- The value is no text, for which it could not be told otherwise. -/
  | notText (v : Value)

/-- The wording of an error. -/
def Error.message : Error → Text
  | .empty v => "Unacceptable pattern: " ++ v.quoted
  | .absolute => "Non-relative patterns are unsupported"
  | .starsInName => "Invalid pattern: '**' can only be an entire path component"
  | .noPart => "tuple index out of range"
  | .onlySlash => "'_TerminatingSelector' object has no attribute 'select_from'"
  | .notAContainer v => "'" ++ v.kindName ++ "' object is not subscriptable"
  | .noFirst => "0"
  | .slashItem v first =>
    "'" ++ v.kindName ++ "' object has no attribute '" ++ (if first then "lstrip" else "split") ++
      "'"
  | .notText v => "intern() argument must be str, not " ++ v.kindName

/-! ### Reading a glob -/

/-- The part that a text stands for. -/
def partOf (t : Text) : Except Error GlobPart :=
  if t = "**" then .ok .anyDepth
  else if Text.contains t "**" then .error .starsInName
  else if Wildcard.isWildcard t then .ok (.wildcard (Wildcard.ofText t))
  else .ok (.name t)

/-- The parts that texts stand for. -/
def partsOf : List Text → Except Error Glob
  | [] => .ok []
  | t :: ts =>
    match partOf t with
    | .error e => .error e
    | .ok p => (partsOf ts).map (p :: ·)

/-- The glob that a text stands for. -/
def ofText (t : Text) : Except Error Glob :=
  if t = [] then .error (.empty (.text t))
  else
    let path := Path.ofText t
    let closed := t.getLast? = some '/'
    if path.root ≠ [] then .error .absolute
    else if path.parts = [] then .error (if closed then .onlySlash else .noPart)
    else (partsOf path.parts).map fun g => if closed then g ++ [.here] else g

/-- Whether a value is a slash. -/
def isSlash (v : Value) : Bool := v.text? == some ['/']

/-- Why a value that is no text is no glob. -/
def errorOf (v : Value) : Error :=
  if v.isEmpty then .empty v
  else
    match v with
    | .list items =>
      if items.head?.any isSlash then .slashItem v true
      else if items.any isSlash then .slashItem v false
      else .notText v
    | .mapping entries =>
      match Mapping.get? entries (.int 0) with
      | none => .noFirst
      | some first =>
        if isSlash first then .slashItem v true
        else if Mapping.contains entries (.text ['/']) then .slashItem v false
        else .notText v
    | _ => .notAContainer v

/-- The glob that a value stands for. -/
def ofValue : Value → Except Error Glob
  | .text t => ofText t
  | v => .error (errorOf v)

/-! ### Finding paths -/

/-- The paths that one part of a glob leads to from a directory, if `rest` follows it. The last part
leads to anything, the others to directories. All directories are looked into, by the parts that
follow or else to find those below. -/
def step (t : Tree) (rest : Glob) (p : Path) : GlobPart → Except Tree.Error (List Path)
  | .here => .ok [p]
  | .anyDepth =>
    if rest.all (· = .here) then (t.directories p).mapM fun q => (t.entries q).map fun _ => q
    else .ok (t.directories p)
  | .name name =>
    match t.lookUp (p.child name) with
    | .error e => .error e
    | .ok none => .ok []
    | .ok (some (.file _)) | .ok (some .sink) => .ok (if rest.isEmpty then [p.child name] else [])
    | .ok (some .directory) => .ok [p.child name]
  | .wildcard w =>
    (t.entries p).map fun es =>
      (es.filter fun (name, n) => w.accepts name && (rest.isEmpty || n.isDirectory)).map
        fun (name, _) => p.child name

/-- The paths that one part of a glob leads to from some directories. -/
def stepAll (t : Tree) (rest : Glob) (g : GlobPart) : List Path → Except Tree.Error (List Path)
  | [] => .ok []
  | p :: ps =>
    match step t rest p g, stepAll t rest g ps with
    | .error e, _ | _, .error e => .error e
    | .ok qs, .ok more => .ok (qs ++ more)

/-- The paths that a glob leads to from some directories, each once. -/
def select (t : Tree) : Glob → List Path → Except Tree.Error (List Path)
  | [], ps => .ok ps
  | g :: rest, ps =>
    match stepAll t rest g ps with
    | .error e => .error e
    | .ok qs => select t rest qs.eraseDups

/-- The paths below a directory that match a glob, in order. -/
def paths (g : Glob) (t : Tree) (p : Path) : Except Tree.Error (List Path) :=
  (g.select t [p]).map Path.sort

end Glob

end FeatureDocs
