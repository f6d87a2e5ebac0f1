import DocLint.Lexeme
import DocLint.Search

/-!
# The layout of a declaration

Where the parts of a function or class declaration are, as positions in the
list of lexemes of its file. The header runs from the keyword to the colon
outside all brackets; the scope runs from that colon to the last kept lexeme
of the indented block, or to the end of the line of a one-line body.

`Header.scan` reads the header, `blockEnd` finds the end of a block by counting
`indent` and `dedent`, and `docString?` is the string that stands alone as the
first statement of the scope.
-/
namespace DocLint

/-- What the header of a declaration shows. -/
structure Header where
  parenOpener : Option Nat := none
  parenCloser : Option Nat := none
  scopeOpener : Option Nat := none
  deriving DecidableEq, Repr

namespace Header

/-- Reads on in a header, with `depth` brackets open and the next lexeme at
`position`. The first parenthesis outside brackets opens the parameters; the
first bracket that leads back to depth zero closes them; a colon outside
brackets ends the header, and so does the end of the line. -/
def scan (h : Header) (depth : Int) (position : Nat) : List Lexeme → Header
  | [] => h
  | x :: rest =>
    if x.type == .newline then h
    else if x.opensBracket then
      let opens := depth == 0 && x.text == "(" && h.parenOpener.isNone
      scan { h with parenOpener := if opens then some position else h.parenOpener }
        (depth + 1) (position + 1) rest
    else if x.closesBracket then
      let closes := depth - 1 == 0 && h.parenOpener.isSome && h.parenCloser.isNone
      scan { h with parenCloser := if closes then some position else h.parenCloser }
        (depth - 1) (position + 1) rest
    else if x.isOperator ":" && depth == 0 then { h with scopeOpener := some position }
    else scan h depth (position + 1) rest

end Header

/-- Reads on in a block, with `depth` indents open and the next lexeme at
`position`, and answers with the last kept lexeme before the dedent that closes
the block. `newline` ends the header; it is the answer if no indented block
follows. -/
def blockEnd (newline : Nat) (depth : Int) (lastKept position : Nat) : List Lexeme → Nat
  | [] => lastKept
  | x :: rest =>
    match x.type with
    | .indent => blockEnd newline (depth + 1) position (position + 1) rest
    | .dedent =>
      if depth - 1 == 0 then lastKept
      else blockEnd newline (depth - 1) lastKept (position + 1) rest
    | type =>
      if depth == 0 && type != .lineBreak && type != .comment then newline
      else
        blockEnd newline depth (if type.isKept then position else lastKept) (position + 1) rest

/-- Positions of the parts of a declaration. -/
structure Layout where
  scopeOpener : Option Nat := none
  scopeCloser : Option Nat := none
  parenOpener : Option Nat := none
  parenCloser : Option Nat := none
  deriving DecidableEq, Repr

namespace Layout

/-- The end of the scope that the colon at `opener` opens. -/
def scopeEnd (lexemes : List Lexeme) (opener : Nat) : Nat :=
  let n := lexemes.length
  let oneLine := ((firstIn (·.type == .newline) lexemes (opener + 1) n).or
    (lastIn Lexeme.isKept lexemes 0 n)).getD 0
  match firstIn (·.type != .comment) lexemes (opener + 1) n with
  | none => oneLine
  | some after =>
    if lexemes[after]?.any (·.type == .newline) then
      blockEnd after 0 after (after + 1) (lexemes.drop (after + 1))
    else oneLine

/-- The layout of the declaration whose keyword is at `keyword`. -/
def ofDeclaration (lexemes : List Lexeme) (keyword : Nat) : Layout :=
  let header := Header.scan {} 0 (keyword + 1) (lexemes.drop (keyword + 1))
  { scopeOpener := header.scopeOpener
    scopeCloser := header.scopeOpener.map (scopeEnd lexemes)
    parenOpener := header.parenOpener
    parenCloser := header.parenCloser }

/-- Whether a lexeme may stand between the colon and the first statement. -/
def isBodySkip (x : Lexeme) : Bool :=
  x.type == .newline || x.type == .lineBreak || x.type == .comment || x.type == .indent

def endsStatement (x : Lexeme) : Bool := x.type == .newline || x.isOperator ";"

/-- The string that is the first statement of the scope, on its own. -/
def docString? (layout : Layout) (lexemes : List Lexeme) : Option Nat := do
  let opener ← layout.scopeOpener
  let closer ← layout.scopeCloser
  let index ← firstIn (fun x => !isBodySkip x) lexemes (opener + 1)
    (min (closer + 1) lexemes.length)
  let after ← firstIn (·.type != .comment) lexemes (index + 1) lexemes.length
  if lexemes[index]?.any (·.type == .string) && lexemes[after]?.any endsStatement then
    some index
  else none

end Layout

end DocLint
