import DocLint.Fault
import DocLint.Text.Blank
import DocLint.Value

/-!
# Settings

The settings are what a configuration table says about three keys. A value of
the wrong type is passed over with a warning, and so is a key that is not
known.
-/
namespace DocLint

/-- The settings of the linter, as the table that they come from. -/
structure Settings where
  table : Table
  deriving Repr

namespace Settings

def parserKey : String := "comment_parser"

/-- The key for the parameters that need no tag. -/
def ignoredKey : String := "ignored_params"

/-- The key for the functions that need no return tag. -/
def exemptKey : String := "return_exempt_methods"

def knownKeys : List String := [parserKey, ignoredKey, exemptKey]

/-- The comment parser in use when none is configured. -/
def defaultParser : String :=
  "conventions_linter.infrastructure.gateways.docstring_parser:DocstringCommentParser"

/-- The parameters that need no tag by default. -/
def defaultIgnored : List String := ["self", "cls"]

/-- The functions that need no return tag by default. -/
def defaultExempt : List String := ["__init__", "__del__"]

/-- The value of a key. A key that is not there is null. -/
def value (settings : Settings) (key : String) : Value :=
  (Assoc.lookup key settings.table).getD .null

def commentParser (settings : Settings) : String :=
  match settings.value parserKey with
  | .text path =>
    let path := Text.trimString path
    if path = "" then defaultParser else path
  | _ => defaultParser

/-- The strings of a list under a key, or the default. -/
def strings (settings : Settings) (key : String) (default : List String) : List String :=
  ((settings.value key).texts?).getD default

def ignoredParams (settings : Settings) : List String :=
  settings.strings ignoredKey defaultIgnored

/-- The functions that need no return tag. -/
def exemptFunctions (settings : Settings) : List String :=
  settings.strings exemptKey defaultExempt

/-- The keys of the table that are not known, each once and in order. -/
def unknownKeys (settings : Settings) : List String :=
  let keys := (settings.table.map Prod.fst).eraseDups
  (keys.filter fun key => !knownKeys.contains key).mergeSort fun a b => decide (a ≤ b)

/-- Whether the value of a key is there and is no list of strings. -/
def lacksStrings (settings : Settings) (key : String) : Bool :=
  !(settings.value key).isNull && (settings.value key).texts?.isNone

/-- Whether the path of the comment parser is there and is no string. -/
def lacksParserText (settings : Settings) : Bool :=
  !(settings.value parserKey).isNull && (settings.value parserKey).text?.isNone

/-- A warning about the configuration. -/
def warning (text : String) : LogLine := ⟨.warning, "Configuration Warning: " ++ text⟩

def warnings (settings : Settings) : List LogLine :=
  (settings.unknownKeys.map fun key =>
    warning s!"unknown key '{key}' in [tool.conventions-linter].") ++
  (if settings.lacksParserText then
    [warning "'comment_parser' must be a string; using the default parser."] else []) ++
  (([ignoredKey, exemptKey].filter settings.lacksStrings).map fun key =>
    warning s!"'{key}' must be a list of strings; using defaults.")

end Settings

end DocLint
