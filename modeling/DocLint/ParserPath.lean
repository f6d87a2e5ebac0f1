import DocLint.Comment.Reader

/-!
# Paths of comment parsers

A comment parser is configured by a path `module:attribute`. The module is
imported, and its attribute is taken if it can be called. Nothing more is asked
of it, so a path can name a callable that fails when it is used. What modules
there are is a parameter.
-/
namespace DocLint

/-- Something that can be called to read a comment. -/
structure NamedParser where
  name : String
  reader : CommentReader

namespace NamedParser

variable (lexicon : Literal.Lexicon)

/-- The parser in use by default. -/
def docstring : NamedParser := ⟨"DocstringCommentParser", docstringReader lexicon⟩

/-- A class that is not made from a text alone. -/
def incomplete (name missing : String) : NamedParser :=
  ⟨name, fun _ => .error (.wrongArguments name missing)⟩

/-- What can be called in the module of the parser for docstrings. -/
def ofDocstringModule : List NamedParser :=
  [docstring lexicon,
    incomplete "DocComment" "1 required positional argument: 'line'",
    incomplete "ParamTag" "2 required positional arguments: 'comment' and 'line'",
    incomplete "ReturnTag" "1 required positional argument: 'line'",
    ⟨"CommentParseError", fun _ => .error (.lacksMember "CommentParseError" "parse")⟩]

end NamedParser

/-- What importing a module leads to. -/
inductive Imported (α : Type)
  /-- There is no such module, in the words of the import system. -/
  | missing (reason : String)
  | failed (fault : Fault)
  /-- The module, with what can be called under a name. -/
  | found (callable? : String → Option α)

namespace ParserPath

def cut (path : String) : String × String :=
  let before := path.toList.takeWhile (· != ':')
  let after := path.toList.dropWhile (· != ':')
  (String.ofList before, String.ofList after.tail)

def resolve {α : Type} (importModule : String → Imported α) (path : String) :
    Except Fault (α × LogLine) :=
  let (moduleName, name) := cut path
  if moduleName = "" ∨ name = "" then .error (.parserUnavailable (.badPath path))
  else
    match importModule moduleName with
    | .missing reason => .error (.parserUnavailable (.noModule moduleName reason))
    | .failed fault => .error fault
    | .found callable? =>
      match callable? name with
      | some parser => .ok (parser, ⟨.debug, s!"Resolved comment parser {path}"⟩)
      | none => .error (.parserUnavailable (.noMember moduleName name))

end ParserPath

end DocLint
