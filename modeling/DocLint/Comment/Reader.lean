import DocLint.Comment.Tag
import DocLint.Literal.Evaluation

/-!
# Reading a doc comment

The text of a doc comment token is a literal. Its lines are cut free of blanks
at their ends and of the indentation that all lines but the first share. The
lines before the first tag line are the description; from there on come the
tags.

The description starts at its first line that is not empty and ends at its last
such line. Its short part reaches to the first empty line; what comes after the
empty lines there is the long part.

`Reader` keeps what it has found from one reading to the next: parameters add
up, and the first return tag stays. A reading that fails changes nothing.
-/
namespace DocLint

open Text

/-- The indentation that all lines share which are not empty. -/
def margin (rest : List (List Char)) : Nat :=
  (((rest.filter fun line => !line.isEmpty).map indent).min?).getD 0

/-- The lines without blanks at their ends and without their common margin. The
first line has no margin; all blanks before it are dropped. -/
def dedent (lines : List (List Char)) : List (List Char) :=
  match lines.map trimRight with
  | [] => []
  | first :: rest => trimLeft first :: rest.map (·.drop (margin rest))

/-- The parts of the description of a doc comment. -/
structure Description where
  /-- The number of empty lines before the description. -/
  before : Nat
  short : List (List Char)
  /-- The number of empty lines between the two parts. -/
  between : Nat
  long : List (List Char)
  /-- The number of empty lines after the description. -/
  after : Nat
  deriving DecidableEq, Repr

namespace Description

/-- Cuts lines into the parts of a description. -/
def ofLines (lines : List (List Char)) : Description :=
  let filled := lines.dropWhile List.isEmpty
  let ending := (filled.reverse.takeWhile List.isEmpty).length
  let body := filled.take (filled.length - ending)
  let tail := body.dropWhile fun line => !line.isEmpty
  { before := (lines.takeWhile List.isEmpty).length
    short := body.takeWhile fun line => !line.isEmpty
    between := (tail.takeWhile List.isEmpty).length
    long := tail.dropWhile List.isEmpty
    after := ending }

def body (d : Description) : List (List Char) :=
  d.short ++ List.replicate d.between [] ++ d.long

end Description

/-- The doc comment with the given lines, unless they are all empty and none is
a tag line. -/
def DocComment.ofLines (lines : List (List Char)) (params : List ParamTag)
    (returnTag : Option ReturnTag) : Option DocComment :=
  let tagStart := lines.findIdx? isTagLine
  let description := Description.ofLines (lines.take (tagStart.getD lines.length))
  let endLine : Int := (lines.length : Int) - 1
  if description.short.isEmpty then
    tagStart.map fun start =>
      { content := "", line := start, params := params, returnTag := returnTag, endLine := endLine }
  else
    some
      { content := String.ofList (joinWith ['\n'] description.body)
        line := description.before
        shortDescription := String.ofList (joinWith [' '] description.short)
        longDescription := String.ofList (joinWith ['\n'] description.long)
        blankLinesBeforeLong := description.between
        blankLinesBeforeTags := tagStart.map fun _ => description.after
        params := params
        returnTag := returnTag
        endLine := endLine }

/-- A reader of one doc comment token, with what it has found so far. -/
structure Reader where
  text : String
  found : Reading := {}
  deriving DecidableEq, Repr

namespace Reader

/-- What a reader knows after it has read lines once more. -/
def readLines (found : Reading) (lines : List (List Char)) : Reading :=
  let tags := Tag.ofLines 0 lines
  let params := found.params ++
    (tags.filter Tag.isParam).map fun tag => ParamTag.ofText tag.text tag.line
  let returnTag := found.returnTag.or
    ((tags.find? Tag.isReturn).map fun tag => ReturnTag.ofText tag.text tag.line)
  { comment := DocComment.ofLines lines params returnTag
    params := params
    returnTag := returnTag }

variable (lexicon : Literal.Lexicon)

def tokenLines (text : String) : Except Fault (List (List Char)) := do
  return dedent (lines (← Literal.readText lexicon text))

/-- Reads the comment once more. -/
def read (r : Reader) : Except Fault Reader := do
  return { r with found := readLines r.found (← tokenLines lexicon r.text) }

/-- Tries to read the comment once more: the reader afterwards, and how it went. -/
def attempt (r : Reader) : Reader × Except Fault Unit :=
  match r.read lexicon with
  | .ok next => (next, .ok ())
  | .error fault => (r, .error fault)

end Reader

/-- Reads a docstring once. -/
def docstringReader (lexicon : Literal.Lexicon) : CommentReader := fun text => do
  return (← Reader.read lexicon { text := text }).found

end DocLint
