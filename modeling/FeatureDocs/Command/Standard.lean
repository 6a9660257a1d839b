import FeatureDocs.Command.Options
import FeatureDocs.Text.Lines

/-!
# A console

A console on which a value follows its option as the next argument, behind an equals sign, or
directly behind the short name; of an option that is repeated the last value counts. Operands are
not allowed. A request for help comes before every complaint but those about the shape of the
options themselves. What is printed goes to something else than a terminal: it has no control
sequences, and each break of two characters is one.
-/

namespace FeatureDocs

/-! ### Control sequences -/

namespace Text

/-- A parameter of a control sequence. -/
def isParameter (c : Char) : Bool := '0' ≤ c && c ≤ '?'

/-- A character between the parameters of a control sequence and its end. -/
def isIntermediate (c : Char) : Bool := ' ' ≤ c && c ≤ '/'

/-- A character that ends a control sequence. -/
def isFinal (c : Char) : Bool := '@' ≤ c && c ≤ '~'

/-- The length of the control sequence at the start of a text; zero if there is none. -/
def sequenceLength : Text → Nat
  | c :: '[' :: rest =>
    if c = escapeChar then
      let parameters := rest.takeWhile isParameter
      let intermediates := (rest.drop parameters.length).takeWhile isIntermediate
      let inside := parameters.length + intermediates.length
      if (rest.drop inside).head?.any isFinal then inside + 3 else 0
    else 0
  | _ => 0

/-- What is left of a text behind its first `skip` characters when its control sequences are taken
out. -/
def dropSequences : Nat → Text → Text
  | _, [] => []
  | skip + 1, _ :: rest => dropSequences skip rest
  | 0, c :: rest =>
    match sequenceLength (c :: rest) with
    | 0 => c :: dropSequences 0 rest
    | n + 1 => dropSequences n rest

/-- The text without its control sequences. -/
def withoutSequences (t : Text) : Text := dropSequences 0 t

end Text

namespace Command

/-! ### Arguments -/

/-- What a name asks for. -/
inductive Switch
  | setting (s : Setting)
  | listLanguages
  | help
  deriving DecidableEq, Repr

/-- The long names of the options. -/
def longNames : List (Text × Switch) :=
  Setting.all.map (fun s => (s.longName, .setting s)) ++
    [(listLanguagesName, .listLanguages), ("--help", .help)]

/-- The short names of the options. -/
def shortNames : List (Char × Setting) :=
  Setting.all.filterMap fun s => s.shortName.map (·, s)

/-- The options, one on a line. -/
def usage : Text :=
  longNames.flatMap fun (name, switch) =>
    match switch with
    | .setting _ => "  " ++ name ++ " VALUE\n"
    | _ => "  " ++ name ++ "\n"

/-- What an argument is. -/
inductive Argument
  | operand
  | setting (s : Setting) (value : Option Text)
  | listLanguages
  | help
  | wrong

/-- What an argument is, where an option may stand. -/
def Argument.ofText (t : Text) : Argument :=
  if t.head? ≠ some '-' ∨ t.length ≤ 1 then .operand
  else
    let (name, value) :=
      match Text.cut? "=" t with
      | some (name, value) => (name, some value)
      | none => (t, none)
    match longNames.lookup name with
    | some (.setting s) => .setting s value
    | some .listLanguages => if value.isSome then .wrong else .listLanguages
    | some .help => if value.isSome then .wrong else .help
    | none =>
      match t with
      | _ :: c :: rest =>
        match shortNames.lookup c with
        | some s => .setting s (if rest.isEmpty then none else some rest)
        | none => .wrong
      | _ => .wrong

/-- What has been read of a command line. -/
structure Arguments where
  values : List (Setting × Text) := []
  listLanguages : Bool := false
  help : Bool := false
  operands : Bool := false

namespace Arguments

/-- Read the arguments that are left; nothing if an option is wrong or lacks its value. -/
def read : Arguments → List Text → Option Arguments
  | as, [] => some as
  | as, t :: rest =>
    if t = "--" then some { as with operands := as.operands || !rest.isEmpty }
    else
      match Argument.ofText t with
      | .operand => read { as with operands := true } rest
      | .setting s (some value) => read { as with values := (s, value) :: as.values } rest
      | .setting s none =>
        match rest with
        | [] => none
        | value :: rest => read { as with values := (s, value) :: as.values } rest
      | .listLanguages => read { as with listLanguages := true } rest
      | .help => read { as with help := true } rest
      | .wrong => none

/-- The last value of an option. -/
def value? (as : Arguments) (s : Setting) : Option Text := as.values.lookup s

/-- The options that were read, with a format. -/
def options (as : Arguments) (format : Option ReportFormat) : Options :=
  let defaults : Options := {}
  { features := as.value? .features
    language := as.value? .language
    config := (as.value? .config).getD defaults.config
    environment := (as.value? .environment).getD defaults.environment
    format
    output := as.value? .output
    listLanguages := as.listLanguages }

/-- The format with a name, which has to be one of the two. -/
def formatNamed? (name : Text) : Option ReportFormat :=
  [ReportFormat.text, .json].find? fun format => formatName format = name

/-- What the arguments ask for that were read. -/
def invocation (as : Arguments) : Invocation :=
  if as.help then .help
  else if as.operands then .misuse
  else
    match as.value? .format with
    | none => .run (as.options none)
    | some name =>
      match formatNamed? name with
      | some format => .run (as.options (some format))
      | none => .misuse

end Arguments

/-! ### The console -/

/-- A text on a line of its own, without control sequences. -/
def printLine (t : Text) : Text := Text.joinBreaks (Text.withoutSequences t ++ "\n")

namespace Console

/-- What the arguments of a command line ask for. -/
def readArguments (args : List Text) : Invocation :=
  match Arguments.read {} args with
  | none => .misuse
  | some as => as.invocation

/-- The console. -/
def standard : Console := ⟨readArguments, printLine⟩

end Console

end Command

end FeatureDocs
