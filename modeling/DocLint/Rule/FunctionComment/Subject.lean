import DocLint.Comment
import DocLint.Violation

/-!
# The comment of a function

Where a function's doc comment is, and what is known once it has been read.

The first token of the body decides. A comment on the header line does not
count, and full-line comments are passed over if a doc comment follows them. A
`Subject` is a function with a doc comment that has been read; it is what the
checks of the content look at. A doc comment that `Opening.ofFunction` finds
empty is a violation and makes no subject. A subject made for a given position
can be empty, and then a check fails as soon as it looks at the comment.
-/
namespace DocLint

namespace TokenSequence

/-- Whether a token may stand before the first one of a body. -/
def isBodySkip (token : Token) : Bool :=
  token.kind == .whitespace || token.kind == .terminator

/-- The first token of the body of the function at `index`: not a comment on
the header line, and a doc comment rather than the comments above it. -/
def firstBodyToken (tokens : TokenSequence) (index : Int) : Except Fault (Option Nat) := do
  let function ← tokens.get index
  match function.extent.scopeOpener with
  | none => return none
  | some opener =>
    let header ← tokens.get opener
    let stop := function.extent.scopeCloser.map (· + 1)
    let onHeader (token : Token) := token.kind == .comment && token.line == header.line
    match tokens.findNextBy (fun t => !isBodySkip t && !onHeader t) (opener + 1) stop with
    | none => return none
    | some first =>
      if (tokens.get? first).any (·.kind == .comment) then
        let statement :=
          tokens.findNext (.noneOf [.whitespace, .terminator, .comment]) (first + 1) stop
        match statement with
        | some statement =>
          if (tokens.get? statement).any (·.kind == .docComment) then return some statement
          else return some first
        | none => return some first
      else return some first

/-- The position of the doc comment of the function at `index`. -/
def docCommentOf (tokens : TokenSequence) (index : Int) : Except Fault (Option Nat) := do
  match ← tokens.firstBodyToken index with
  | some first => return if (tokens.get? first).any (·.kind == .docComment) then some first else none
  | none => return none

end TokenSequence

/-- A function and its doc comment, which has been read. -/
structure Subject where
  tokens : TokenSequence
  functionIndex : Int
  commentIndex : Int
  /-- The token of the comment. -/
  token : Token
  /-- What the reader has found. -/
  reading : Reading
  token_eq : tokens.get? commentIndex = some token

namespace Subject

/-- The line in the file of a line of the comment. -/
def lineOf (subject : Subject) (relativeLine : Int) : Int := subject.token.line + relativeLine

/-- A violation at the comment. -/
def report (subject : Subject) (check : Check) (args : List String := [])
    (line : Option Int := none) : Except Fault Violation :=
  check.report subject.tokens subject.commentIndex args line

/-- The comment, of which `member` is asked for. -/
def comment (subject : Subject) (member : String) : Except Fault DocComment :=
  match subject.reading.comment with
  | some comment => .ok comment
  | none => .error (.lacksMember "NoneType" member)

/-- Reads the comment at a position. -/
def read (reader : CommentReader) (tokens : TokenSequence) (functionIndex commentIndex : Int) :
    Except Fault Subject :=
  match h : tokens.get? commentIndex with
  | none => .error (.tokenOutOfRange commentIndex tokens.length)
  | some token => do
    let reading ← reader token.text
    return { tokens, functionIndex, commentIndex, token, reading, token_eq := h }

end Subject

/-- What looking for a function's comment leads to. -/
inductive Opening
  /-- There is nothing to check further. -/
  | closed (violations : List Violation)
  | opened (subject : Subject)

/-- Finds and reads the comment of the function at `index`. -/
def Opening.ofFunction (reader : CommentReader) (tokens : TokenSequence) (index : Int) :
    Except Fault Opening := do
  let function ← tokens.get index
  if function.extent.scopeOpener.isNone then return .closed []
  else
    match ← tokens.firstBodyToken index with
    | none => return .closed [← Check.report .commentMissing tokens index]
    | some first =>
      if (tokens.get? first).any (·.kind == .docComment) then
        match Subject.read reader tokens index first with
        | .ok subject =>
          if subject.reading.comment.isSome then return .opened subject
          else return .closed [← Check.report .commentEmpty tokens first]
        | .error (.unreadable reason) =>
          return .closed [← Check.report .commentUnreadable tokens first [reason.message]]
        | .error fault => throw fault
      else if (tokens.get? first).any (·.kind == .comment) then
        return .closed [← Check.report .commentWrongStyle tokens first]
      else return .closed [← Check.report .commentMissing tokens index]

end DocLint
