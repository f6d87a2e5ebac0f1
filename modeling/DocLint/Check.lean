/-!
# The catalogue of checks

Everything that the linter can complain about. The rules give each check a code
and a message template; the number of slots in the template is the number of
arguments of its violations. What the host shows about a check is said by a
registry, which knows it by its code.
-/
namespace DocLint

/-- What the linter can complain about. -/
inductive Check
  | endBlankLineMissing
  | endTooManyBlankLines
  | commentMissing
  | commentWrongStyle
  | commentUnreadable
  | commentEmpty
  | shortMissing
  | spacingBeforeShort
  | spacingBetween
  | spacingBeforeTags
  | paramNameMissing
  | paramNameMismatch
  | paramNameCaseMismatch
  | paramExtra
  | paramCommentMissing
  | paramTagMissing
  | returnMissing
  | returnValueMissing
  | commentNotCapitalized
  | paramCommentNotCapitalized
  deriving DecidableEq, Repr

namespace Check

def ofEndOfFile : List Check := [endBlankLineMissing, endTooManyBlankLines]

def ofFunction : List Check :=
  [commentMissing, commentWrongStyle, commentUnreadable, commentEmpty, shortMissing,
    spacingBeforeShort, spacingBetween, spacingBeforeTags, paramNameMissing, paramNameMismatch,
    paramNameCaseMismatch, paramExtra, paramCommentMissing, paramTagMissing, returnMissing,
    returnValueMissing, commentNotCapitalized, paramCommentNotCapitalized]

def code : Check → String
  | endBlankLineMissing => "NotFound"
  | endTooManyBlankLines => "TooMany"
  | commentMissing => "Missing"
  | commentWrongStyle => "WrongStyle"
  | commentUnreadable => "FailedParse"
  | commentEmpty => "Empty"
  | shortMissing => "MissingShort"
  | spacingBeforeShort => "SpacingBeforeShort"
  | spacingBetween => "SpacingBetween"
  | spacingBeforeTags => "SpacingBeforeTags"
  | paramNameMissing => "MissingParamName"
  | paramNameMismatch => "ParamNameNoMatch"
  | paramNameCaseMismatch => "ParamNameNoCaseMatch"
  | paramExtra => "ExtraParamComment"
  | paramCommentMissing => "MissingParamComment"
  | paramTagMissing => "MissingParamTag"
  | returnMissing => "MissingReturn"
  | returnValueMissing => "MissingReturnType"
  | commentNotCapitalized => "MissingCommentUpper"
  | paramCommentNotCapitalized => "MissingParamCommentUpper"

def template : Check → String
  | endBlankLineMissing => "Expected 1 blank line at end of file; %s found"
  | endTooManyBlankLines => "Expected 1 blank line at end of file; \"%s\" found"
  | commentMissing => "Missing function doc comment"
  | commentWrongStyle => "You must use a docstring for a function comment"
  | commentUnreadable => "Function doc comment could not be parsed: %s"
  | commentEmpty => "Function doc comment is empty"
  | shortMissing => "Missing short description in function doc comment"
  | spacingBeforeShort => "Extra newline(s) found before function comment short description"
  | spacingBetween =>
    "There must be exactly one blank line between descriptions in function comment"
  | spacingBeforeTags => "There must be exactly one blank line before the tags in function comment"
  | paramNameMissing => "Missing parameter name at position %s"
  | paramNameMismatch =>
    "Doc comment for var %s does not match actual variable name %s at position %s"
  | paramNameCaseMismatch =>
    "Doc comment for var %s does not match case of actual variable name %s at position %s"
  | paramExtra => "Superfluous doc comment at position %s"
  | paramCommentMissing => "Missing comment for param \"%s\" at position %s"
  | paramTagMissing => "Doc comment for \"%s\" missing"
  | returnMissing => "Missing @return tag in function comment"
  | returnValueMissing => "Return value missing for @return tag in function comment"
  | commentNotCapitalized => "Comment must start with an uppercase"
  | paramCommentNotCapitalized => "Comment of \"%s\" must start with an uppercase"

theorem code_injective {a b : Check} (h : a.code = b.code) : a = b := by
  revert h
  cases a <;> cases b <;> simp [code]

end Check

end DocLint
