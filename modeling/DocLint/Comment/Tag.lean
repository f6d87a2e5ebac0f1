import DocLint.Comment
import DocLint.Text.Blank
import DocLint.Text.Lowercase

/-!
# Tags

A tag line starts, after blanks, with `@` or `:` and an ASCII letter. The word
characters from that letter on are the name of the tag, in lower case. A tag
reaches to the next tag line; the lines between that are not blank continue its
text.

The text of a parameter tag has one of two forms. In the named form a colon
follows the name, and a type may stand before the name; everything after that
colon is the comment. In the plain form the first word is the name and the rest
the comment. A name is written with stars before it or without.
-/
namespace DocLint

open Text

/-- A line that starts a tag. -/
structure TagLine where
  name : List Char
  text : List Char
  deriving DecidableEq, Repr

/-- Reads a line as a tag line. -/
def TagLine.ofLine? (line : List Char) : Option TagLine :=
  match trim line with
  | mark :: c :: rest =>
    if (mark = '@' ∨ mark = ':') ∧ isAsciiLetter c then
      some { name := lower (c :: rest.takeWhile isWord), text := rest.dropWhile isWord }
    else none
  | _ => none

def isTagLine (line : List Char) : Bool := (TagLine.ofLine? line).isSome

/-- A tag with its continuation lines. -/
structure Tag where
  name : List Char
  /-- The line on which the tag starts. -/
  line : Nat
  /-- The text on the tag line, and then the continuation lines. -/
  parts : List (List Char)
  deriving DecidableEq, Repr

namespace Tag

/-- The lines that continue a tag, given the lines after the tag line. -/
def continuation (after : List (List Char)) : List (List Char) :=
  ((after.takeWhile fun line => !isTagLine line).map trim).filter fun line => !line.isEmpty

/-- The tags of some lines, of which the first has the given number. -/
def ofLines (number : Nat) : List (List Char) → List Tag
  | [] => []
  | line :: after =>
    match TagLine.ofLine? line with
    | some tag =>
      { name := tag.name, line := number, parts := tag.text :: continuation after } ::
        ofLines (number + 1) after
    | none => ofLines (number + 1) after

def text (tag : Tag) : List Char := joinWith [' '] tag.parts

def isParam (tag : Tag) : Bool :=
  ["param", "parameter", "arg", "argument"].contains (String.ofList tag.name)

def isReturn (tag : Tag) : Bool := ["return", "returns"].contains (String.ofList tag.name)

end Tag

/-- A name with its stars at the start of a text, and what follows it. -/
def starredName? (text : List Char) : Option (List Char × List Char) :=
  let stars := text.takeWhile (· == '*')
  let rest := text.dropWhile (· == '*')
  let name := rest.takeWhile isWord
  if name.isEmpty then none else some (stars ++ name, rest.dropWhile isWord)

/-- What follows a colon, which may have blanks before it. -/
def afterColon? (text : List Char) : Option (List Char) :=
  match trimLeft text with
  | ':' :: rest => some rest
  | _ => none

/-- A name and a colon at the start of a text: the name, and what follows. -/
def nameAndColon? (text : List Char) : Option (List Char × List Char) := do
  let (name, rest) ← starredName? text
  return (name, ← afterColon? rest)

/-- The parts of a parameter tag: type, name with stars, and comment. -/
structure ParamParts where
  typeName : List Char
  name : List Char
  comment : List Char
  deriving DecidableEq, Repr

namespace ParamParts

/-- The named form, in this order of preference: a type, a name and a colon; a
name and a colon; a colon alone. -/
def named? (text : List Char) : Option ParamParts :=
  let start := trimLeft text
  let type := start.takeWhile fun c => !isBlank c
  let afterType := trimLeft (start.dropWhile fun c => !isBlank c)
  match nameAndColon? afterType with
  | some (name, comment) => some { typeName := type, name := name, comment := comment }
  | none =>
    match nameAndColon? start with
    | some (name, comment) => some { typeName := [], name := name, comment := comment }
    | none => (afterColon? start).map fun comment => ⟨[], [], comment⟩

/-- The plain form: a name and a comment. -/
def plain (text : List Char) : ParamParts :=
  let start := trimLeft text
  { typeName := []
    name := start.takeWhile fun c => !isBlank c
    comment := start.dropWhile fun c => !isBlank c }

/-- The parts of the text of a parameter tag. -/
def ofText (text : List Char) : ParamParts := (named? text).getD (plain text)

end ParamParts

def ParamTag.ofText (text : List Char) (line : Nat) : ParamTag :=
  let parts := ParamParts.ofText text
  { name := String.ofList (parts.name.dropWhile (· == '*'))
    comment := String.ofList (trim parts.comment)
    line := line
    typeName := String.ofList parts.typeName }

def ReturnTag.ofText (text : List Char) (line : Nat) : ReturnTag :=
  { value := String.ofList (trim ((trim text).dropWhile (· == ':'))), line := line }

end DocLint
