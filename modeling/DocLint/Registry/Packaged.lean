import DocLint.Registry

/-!
# The packaged registry

The registry that the linter brings along. It says of every message id which
code of the rules it stands for, under which symbol and with which template the
host shows it, and a few words for people.
-/
namespace DocLint

/-- What the packaged registry says about one message. -/
structure CatalogueEntry where
  id : String
  /-- The rule that makes the check. -/
  rule : String
  /-- The code that the rules use. -/
  code : String
  symbol : String
  title : String
  summary : String
  template : String
  deriving DecidableEq, Repr

namespace CatalogueEntry

def fields (entry : CatalogueEntry) : Table :=
  [("sniff", .text entry.rule), ("violation_code", .text entry.code),
    ("symbol", .text entry.symbol), ("display_name", .text entry.title),
    ("short_description", .text entry.summary), ("message_template", .text entry.template)]

/-- What the entry declares to the host. -/
def declared (entry : CatalogueEntry) : MessageEntry :=
  { template := entry.template, symbol := entry.symbol, description := entry.summary }

def ofEndOfFile : List CatalogueEntry :=
  [ { id := "C9101"
      rule := "end-of-file-whitespace"
      code := "NotFound"
      symbol := "end-of-file-blank-line-missing"
      title := "End-of-file blank line missing"
      summary := "The file must end with exactly one blank line after the last code line."
      template := "Expected 1 blank line at end of file; %s found" },
    { id := "C9102"
      rule := "end-of-file-whitespace"
      code := "TooMany"
      symbol := "end-of-file-too-many-blank-lines"
      title := "Too many blank lines at end of file"
      summary := "More than one blank line follows the last code line of the file."
      template := "Expected 1 blank line at end of file; \"%s\" found" }]

def ofFunction : List CatalogueEntry :=
  [ { id := "C9201"
      rule := "function-comment"
      code := "Missing"
      symbol := "function-doc-comment-missing"
      title := "Function doc comment missing"
      summary := "Every function must carry a docstring."
      template := "Missing function doc comment" },
    { id := "C9202"
      rule := "function-comment"
      code := "WrongStyle"
      symbol := "function-doc-comment-wrong-style"
      title := "Function comment is not a docstring"
      summary := "A function is documented with '#' comments instead of a docstring."
      template := "You must use a docstring for a function comment" },
    { id := "W9203"
      rule := "function-comment"
      code := "FailedParse"
      symbol := "function-doc-comment-parse-failed"
      title := "Function doc comment could not be parsed"
      summary := "The docstring literal could not be evaluated as text."
      template := "Function doc comment could not be parsed: %s" },
    { id := "C9204"
      rule := "function-comment"
      code := "Empty"
      symbol := "function-doc-comment-empty"
      title := "Function doc comment empty"
      summary := "The docstring holds neither a description nor tags."
      template := "Function doc comment is empty" },
    { id := "C9205"
      rule := "function-comment"
      code := "MissingShort"
      symbol := "function-doc-comment-missing-short"
      title := "Short description missing"
      summary := "The docstring has tags but no short description."
      template := "Missing short description in function doc comment" },
    { id := "C9206"
      rule := "function-comment"
      code := "SpacingBeforeShort"
      symbol := "function-doc-comment-spacing-before-short"
      title := "Extra newlines before short description"
      summary := "The short description must start on the first or second line of the docstring."
      template := "Extra newline(s) found before function comment short description" },
    { id := "C9207"
      rule := "function-comment"
      code := "SpacingBetween"
      symbol := "function-doc-comment-spacing-between"
      title := "Spacing between descriptions"
      summary := "Short and long descriptions must be separated by exactly one blank line."
      template := "There must be exactly one blank line between descriptions in function comment" },
    { id := "C9208"
      rule := "function-comment"
      code := "SpacingBeforeTags"
      symbol := "function-doc-comment-spacing-before-tags"
      title := "Spacing before tags"
      summary := "Tags must be separated from the description by exactly one blank line."
      template := "There must be exactly one blank line before the tags in function comment" },
    { id := "C9209"
      rule := "function-comment"
      code := "MissingParamName"
      symbol := "function-doc-comment-missing-param-name"
      title := "Parameter tag without name"
      summary := "A parameter tag does not name its parameter."
      template := "Missing parameter name at position %s" },
    { id := "C9210"
      rule := "function-comment"
      code := "ParamNameNoMatch"
      symbol := "function-doc-comment-param-name-mismatch"
      title := "Parameter name mismatch"
      summary := "A parameter tag names a different parameter than the signature at that position."
      template := "Doc comment for var %s does not match actual variable name %s at position %s" },
    { id := "C9211"
      rule := "function-comment"
      code := "ParamNameNoCaseMatch"
      symbol := "function-doc-comment-param-name-case-mismatch"
      title := "Parameter name case mismatch"
      summary := "A parameter tag differs from the signature name only by case."
      template :=
        "Doc comment for var %s does not match case of actual variable name %s at position %s" },
    { id := "C9212"
      rule := "function-comment"
      code := "ExtraParamComment"
      symbol := "function-doc-comment-extra-param"
      title := "Superfluous parameter tag"
      summary := "The docstring documents more parameters than the signature declares."
      template := "Superfluous doc comment at position %s" },
    { id := "C9213"
      rule := "function-comment"
      code := "MissingParamComment"
      symbol := "function-doc-comment-missing-param-comment"
      title := "Parameter comment missing"
      summary := "A parameter tag has no description."
      template := "Missing comment for param \"%s\" at position %s" },
    { id := "C9214"
      rule := "function-comment"
      code := "MissingParamTag"
      symbol := "function-doc-comment-missing-param-tag"
      title := "Parameter tag missing"
      summary := "A parameter of the signature is not documented."
      template := "Doc comment for \"%s\" missing" },
    { id := "C9215"
      rule := "function-comment"
      code := "MissingReturn"
      symbol := "function-doc-comment-missing-return"
      title := "Return tag missing"
      summary := "A function that returns a value must document it with a @return tag."
      template := "Missing @return tag in function comment" },
    { id := "C9216"
      rule := "function-comment"
      code := "MissingReturnType"
      symbol := "function-doc-comment-missing-return-value"
      title := "Return tag empty"
      summary := "The @return tag does not describe the returned value."
      template := "Return value missing for @return tag in function comment" },
    { id := "C9217"
      rule := "function-comment"
      code := "MissingCommentUpper"
      symbol := "function-doc-comment-not-capitalized"
      title := "Doc comment not capitalized"
      summary := "The docstring description must start with an uppercase letter."
      template := "Comment must start with an uppercase" },
    { id := "C9218"
      rule := "function-comment"
      code := "MissingParamCommentUpper"
      symbol := "function-doc-comment-param-not-capitalized"
      title := "Parameter comment not capitalized"
      summary := "Each parameter description must start with an uppercase letter."
      template := "Comment of \"%s\" must start with an uppercase" }]

end CatalogueEntry

namespace Registry

def catalogue : List CatalogueEntry := CatalogueEntry.ofEndOfFile ++ CatalogueEntry.ofFunction

def packaged : Registry := ⟨catalogue.map fun entry => (key entry.id, .table entry.fields)⟩

/-- What a checker takes from some entries of the packaged registry. -/
def Listing.ofEntries (entries : List CatalogueEntry) : Listing where
  messages := entries.map fun entry => (entry.id, entry.declared)
  symbols := entries.map fun entry => (entry.code, entry.symbol)

end Registry

end DocLint
