import DocLint.Rule.FunctionComment.Subject
import DocLint.Text.Blank
import DocLint.Text.Lowercase
import DocLint.Token.Signature

/-!
# Baseline checks of a function's doc comment

The comment exists and can be read; its description is spaced as it should be;
its parameter tags go through the parameters of the signature position by
position; it says what the function returns.
-/
namespace DocLint

/-- The settings of the checks of function comments. -/
structure FunctionRule where
  /-- Reads doc comments. -/
  reader : CommentReader
  /-- Parameters that need no tag. -/
  ignoredParams : List String
  /-- Functions that need no return tag. -/
  exemptFunctions : List String

/-- What stands for a parameter without a name. -/
def unknownName : String := "[ UNKNOWN ]"

namespace Subject

def shownName (tag : ParamTag) : String := if tag.name = "" then unknownName else tag.name

/-- Checks that there is a short description and that one blank line stands
between the parts. -/
def checkDescription (subject : Subject) : Except Fault (List Violation) := do
  let comment ← subject.comment "short_description"
  if Text.isBlankText comment.shortDescription.toList then
    return [← subject.report .shortMissing]
  else
    let spacing : List (Bool × Check) :=
      [(comment.line > 1, .spacingBeforeShort),
        (comment.longDescription != "" && comment.blankLinesBeforeLong != 1, .spacingBetween),
        (comment.blankLinesBeforeTags.any (· != 1), .spacingBeforeTags)]
    (spacing.filter (·.1)).mapM fun check =>
      subject.report check.2 [] (some (subject.lineOf comment.line))

/-- Checks a parameter tag against the parameter at its position, if there is
one. Positions count from one. -/
def checkTag (subject : Subject) (position : Nat) (real : Option String) (tag : ParamTag) :
    Except Fault (List Violation) :=
  let name := shownName tag
  let shownPosition := toString position
  let naming : List (Check × List String) :=
    match real with
    | some real =>
      if tag.name = "" || real = tag.name then []
      else if Text.sameIgnoringCase real tag.name then
        [(.paramNameCaseMismatch, [name, real, shownPosition])]
      else [(.paramNameMismatch, [name, real, shownPosition])]
    | none => [(.paramExtra, [shownPosition])]
  let nameless : List (Check × List String) :=
    if tag.name = "" then [(.paramNameMissing, [shownPosition])] else []
  let speechless : List (Check × List String) :=
    if Text.isBlankText tag.comment.toList then [(.paramCommentMissing, [name, shownPosition])]
    else []
  (naming ++ nameless ++ speechless).mapM fun found =>
    subject.report found.1 found.2 (some (subject.lineOf tag.line))

end Subject

namespace FunctionRule

/-- The parameters of the signature that need a tag. -/
def realParams (rule : FunctionRule) (subject : Subject) : Except Fault (List String) := do
  let names ← subject.tokens.parameterNames subject.functionIndex
  return names.filter fun name => !rule.ignoredParams.contains name

/-- Checks the parameter tags against the signature, position by position, and
then asks for the tags that are missing. -/
def checkParams (rule : FunctionRule) (subject : Subject) : Except Fault (List Violation) := do
  let real ← rule.realParams subject
  let tags := subject.reading.params
  let tagged ← tags.zipIdx.mapM fun tag => subject.checkTag (tag.2 + 1) real[tag.2]? tag.1
  let found := real.take tags.length
  let lastLine ← match tags.getLast? with
    | some tag => pure tag.line
    | none => (subject.comment "line").map DocComment.line
  let missing ← (real.filter fun name => !found.contains name).mapM fun name =>
    subject.report .paramTagMissing [name] (some (subject.lineOf lastLine))
  return tagged.flatten ++ missing

/-- Checks that the comment says what the function returns. -/
def checkReturn (rule : FunctionRule) (subject : Subject) : Except Fault (List Violation) := do
  let name ← subject.tokens.declaredName subject.functionIndex
  if rule.exemptFunctions.contains name then return []
  else
    match subject.reading.returnTag with
    | none =>
      let comment ← subject.comment "end_line"
      return [← subject.report .returnMissing [] (some (subject.lineOf comment.endLine))]
    | some tag =>
      if Text.isBlankText tag.value.toList then
        return [← subject.report .returnValueMissing [] (some (subject.lineOf tag.line))]
      else return []

/-- Opens the comment of the function at `index` and makes the given checks. -/
def runSteps (rule : FunctionRule) (tokens : TokenSequence) (index : Int)
    (steps : List (Subject → Except Fault (List Violation))) : Except Fault (List Violation) := do
  match ← Opening.ofFunction rule.reader tokens index with
  | .closed violations => return violations
  | .opened subject => return (← steps.mapM fun step => step subject).flatten

/-- Makes the baseline checks of the function at `index`. -/
def checkBaseline (rule : FunctionRule) (tokens : TokenSequence) (index : Int) :
    Except Fault (List Violation) :=
  rule.runSteps tokens index [rule.checkParams, rule.checkReturn, Subject.checkDescription]

end FunctionRule

end DocLint
