import DocLint.Rule.FunctionComment.Baseline
import DocLint.Text.Word

/-!
# All checks of a function's doc comment

The extended checks are the baseline checks with three changes. The description
and the comments of the parameters have to start with an upper-case letter. A
comment that inherits its text needs no tags. And the returned value has to be
described only if some return statement of the function gives one.
-/
namespace DocLint

/-- Whether a character is the lower-case letter `letter` but for its case. The
dotted and the dotless form of the letter I both count. -/
def matchesLetter (letter c : Char) : Bool :=
  c.toLower == letter || letter == 'i' && (c == '\u0130' || c == '\u0131')

/-- Whether a text starts with a pattern in lower case, but for case. -/
def startsIgnoringCase : List Char → List Char → Bool
  | [], _ => true
  | _ :: _, [] => false
  | p :: pattern, c :: text => matchesLetter p c && startsIgnoringCase pattern text

/-- Whether a text holds a pattern in lower case, but for case. -/
def holdsIgnoringCase (pattern : List Char) : List Char → Bool
  | [] => pattern.isEmpty
  | c :: text => startsIgnoringCase pattern (c :: text) || holdsIgnoringCase pattern text

/-- Whether a text is empty or starts with something else than an ASCII
lower-case letter. -/
def startsUpper (text : List Char) : Bool := !text.head?.any Text.isAsciiLower

namespace TokenSequence

/-- Whether the return keyword at `index` has an expression after it. -/
def givesValue (tokens : TokenSequence) (index : Int) : Bool :=
  match tokens.findNext (.noneOf [.whitespace, .comment]) (index + 1) with
  | none => false
  | some after => (tokens.get? after).any (·.kind != .terminator)

/-- Whether some return keyword between two positions gives a value. Both
positions are included. -/
def returnsValue (tokens : TokenSequence) (first last : Int) : Bool :=
  let lo := first.toNat
  let hi := (min (last + 1) tokens.length).toNat
  (List.range' lo (hi - lo)).any fun i =>
    tokens.tokens[i]?.any (·.kind == .returnKeyword) && tokens.givesValue i

end TokenSequence

/-- The mark of a comment that inherits its text. -/
def inheritMark : List Char := "\x7b@inheritdoc\x7d".toList

/-- Whether the description says that the comment inherits its text. -/
def DocComment.inherits (comment : DocComment) : Bool :=
  holdsIgnoringCase inheritMark comment.content.toList

def Subject.inherits (subject : Subject) : Except Fault Bool :=
  (subject.comment "content").map DocComment.inherits

/-- Checks that the description starts with an upper-case letter. -/
def Subject.checkCapital (subject : Subject) : Except Fault (List Violation) := do
  let comment ← subject.comment "content"
  if startsUpper comment.content.toList then return []
  else
    return [← subject.report .commentNotCapitalized [] (some (subject.lineOf comment.line))]

namespace FunctionRule

/-- Checks the parameter tags, and that their comments start with an upper-case
letter. -/
def checkParamsFully (rule : FunctionRule) (subject : Subject) :
    Except Fault (List Violation) := do
  if ← subject.inherits then return []
  else
    let baseline ← rule.checkParams subject
    let uncapitalized := subject.reading.params.filter fun tag =>
      !startsUpper (Text.trim tag.comment.toList)
    let more ← uncapitalized.mapM fun tag =>
      subject.report .paramCommentNotCapitalized [Subject.shownName tag]
        (some (subject.lineOf tag.line))
    return baseline ++ more

/-- Checks the description of the returned value, if there is such a value. -/
def checkReturnFully (rule : FunctionRule) (subject : Subject) :
    Except Fault (List Violation) := do
  if ← subject.inherits then return []
  else
    let function ← subject.tokens.get subject.functionIndex
    match function.extent.scopeOpener, function.extent.scopeCloser with
    | some opener, some closer =>
      if subject.tokens.returnsValue opener closer then rule.checkReturn subject else return []
    | _, _ => return []

/-- Makes all checks of the function at `index`, if anything that a comment can
follow stands before it. -/
def check (rule : FunctionRule) (tokens : TokenSequence) (index : Int) :
    Except Fault (List Violation) :=
  let anchors := KindTest.oneOf [.comment, .docComment, .classKeyword, .function, .openTag]
  if (tokens.findPrevious anchors (index - 1)).isNone then .ok []
  else
    rule.runSteps tokens index
      [rule.checkParamsFully, rule.checkReturnFully, Subject.checkDescription,
        Subject.checkCapital]

end FunctionRule

end DocLint
