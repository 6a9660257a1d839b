import FeatureDocs.Keyword.Category
import FeatureDocs.Value.Printer

/-!
# Keyword datasets

A dataset gives each language the prefixes of its keywords, category by category. It is read from a
value, in order, and the first item that is not as it has to be is the error.
-/

namespace FeatureDocs

/-- The prefixes of one language. -/
abbrev LanguageEntry := Mapping Category (List Text)

/-- The prefixes of all languages, by language code. -/
structure Dataset where
  languages : Mapping Text LanguageEntry

namespace Dataset

/-- Why a value is not a keyword dataset. -/
inductive Error
  | notAMapping
  | languageNotAMapping (code : Key)
  | unknownCategory (code name : Key)
  | notPrefixes (code name : Key)
  | badPrefix (code name : Key) (candidate : Value)

/-- The wording of an error. -/
def Error.message : Error → Text
  | .notAMapping => "Keyword dataset must be a mapping of language codes"
  | .languageNotAMapping code =>
    "Language '" ++ code.plain ++ "' must map categories to prefixes"
  | .unknownCategory code name =>
    "Unknown keyword category '" ++ name.plain ++ "' in language '" ++ code.plain ++ "'"
  | .notPrefixes code name =>
    "Prefixes for " ++ code.plain ++ "." ++ name.plain ++ " must be a string or a list"
  | .badPrefix code name candidate =>
    "Empty or non-string prefix in " ++ code.plain ++ "." ++ name.plain ++ ": " ++
      candidate.quoted

/-! ### Reading a dataset -/

/-- The prefixes in a list of values, each a text that is not blank. -/
def readPrefixes (code name : Key) : List Value → Except Error (List Text)
  | [] => .ok []
  | v :: vs =>
    match v with
    | .text t =>
      if Text.isBlank t then .error (.badPrefix code name v)
      else (readPrefixes code name vs).map (t :: ·)
    | _ => .error (.badPrefix code name v)

/-- The prefixes that a value gives: those of a list, or a single one. -/
def prefixesOf (code name : Key) : Value → Except Error (List Text)
  | .text t => readPrefixes code name [.text t]
  | .list items => readPrefixes code name items
  | _ => .error (.notPrefixes code name)

/-- The category that a key names. -/
def categoryOf? : Key → Option Category
  | .text t => Category.ofName? t
  | _ => none

/-- The categories of a language, added to those already read. -/
def readEntry (code : Key) (entry : LanguageEntry) : Section → Except Error LanguageEntry
  | [] => .ok entry
  | (name, v) :: rest =>
    match categoryOf? name with
    | none => .error (.unknownCategory code name)
    | some c =>
      match prefixesOf code name v with
      | .ok candidates => readEntry code (Mapping.insert entry c candidates) rest
      | .error e => .error e

/-- The languages of a dataset, added to those already read. -/
def readLanguages (languages : Mapping Text LanguageEntry) :
    Section → Except Error (Mapping Text LanguageEntry)
  | [] => .ok languages
  | (code, .mapping categories) :: rest =>
    match readEntry code [] categories with
    | .ok entry => readLanguages (Mapping.insert languages code.plain entry) rest
    | .error e => .error e
  | (code, _) :: _ => .error (.languageNotAMapping code)

/-- The dataset that a value describes. -/
def ofValue : Value → Except Error Dataset
  | .mapping entries => (readLanguages [] entries).map Dataset.mk
  | _ => .error .notAMapping

/-- The dataset that a data file describes, where an empty value stands for no language. -/
def ofFileValue (v : Value) : Except Error Dataset :=
  ofValue (if v.isEmpty then .mapping [] else v)

/-! ### Looking at a dataset -/

/-- The language codes in ascending order. -/
def codes (d : Dataset) : List Text := Text.sort (Mapping.keys d.languages)

/-- The prefixes of a language. -/
def entry? (d : Dataset) (code : Text) : Option LanguageEntry := Mapping.get? d.languages code

/-- Whether a language is in the dataset. -/
def contains (d : Dataset) (code : Text) : Bool := Mapping.contains d.languages code

end Dataset

end FeatureDocs
