import FeatureDocs.Report.Summary
import FeatureDocs.Text.Terminal

/-!
# Command line options

An option has a long name and may have a short one. How arguments are read and what becomes of a
text that is printed is up to the console that a run is started from. Of the former it is known that
an option may be given by its long name, an equals sign and its value, and of the latter that a text
without control sequences and returns is printed as a line of its own (`Command.Console.Lawful`).
-/

namespace FeatureDocs

namespace Command

/-- What a run is asked to do. -/
structure Options where
  features : Option Text := none
  language : Option Text := none
  config : Text := "config/config.yaml"
  environment : Text := "dev"
  format : Option ReportFormat := none
  output : Option Text := none
  listLanguages : Bool := false

/-- An option with a value. -/
inductive Setting
  | features
  | language
  | config
  | environment
  | format
  | output
  deriving DecidableEq, Repr

namespace Setting

/-- All options with a value. -/
def all : List Setting := [.features, .language, .config, .environment, .format, .output]

/-- The long name of an option. -/
def longName : Setting → Text
  | .features => "--features"
  | .language => "--lang"
  | .config => "--config"
  | .environment => "--env"
  | .format => "--format"
  | .output => "--output"

/-- The character that an option may be named by, if any. -/
def shortName : Setting → Option Char
  | .features => some 'f'
  | .language => some 'l'
  | .config => some 'c'
  | .environment => some 'e'
  | .format => none
  | .output => some 'o'

/-- An option as one argument. -/
def argument (s : Setting) (value : Text) : Text := s.longName ++ "=" ++ value

end Setting

/-- The name of the option that asks for the languages. -/
def listLanguagesName : Text := "--list-languages"

/-- The name of a format. -/
def formatName : ReportFormat → Text
  | .text => "text"
  | .json => "json"

namespace Options

/-- The value of an option, if it is given. -/
def value? (o : Options) : Setting → Option Text
  | .features => o.features
  | .language => o.language
  | .config => some o.config
  | .environment => some o.environment
  | .format => o.format.map formatName
  | .output => o.output

/-- A command line that gives all options. -/
def arguments (o : Options) : List Text :=
  Setting.all.filterMap (fun s => (o.value? s).map s.argument) ++
    if o.listLanguages then [listLanguagesName] else []

end Options

/-- What a command line asks for. -/
inductive Invocation
  | run (o : Options)
  | help
  | misuse

/-! ### Consoles -/

/-- Where a run is started from. -/
structure Console where
  /-- What the arguments of a command line ask for. -/
  read : List Text → Invocation
  /-- What becomes of a text that is printed. -/
  echo : Text → Text

/-- What is known of a console. -/
structure Console.Lawful (c : Console) : Prop where
  /-- Options are read as they are given. -/
  read_arguments : ∀ o : Options, c.read o.arguments = .run o
  /-- A text that is plain is printed on a line of its own. -/
  echo_plain : ∀ t : Text, t.Plain → c.echo t = t ++ "\n"

end Command

end FeatureDocs
