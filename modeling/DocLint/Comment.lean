import DocLint.Fault

/-!
# Doc comments

What a reader finds in a doc comment: a description in two parts, the
parameters with their comments, and what the function returns. All lines are
counted from the first line of the comment's token, which is line zero.

A `CommentReader` is any function from the text of a token to a `Reading`. So a
text is read the same way each time, and words about it do not change either.
-/
namespace DocLint

/-- A tag for one parameter. -/
structure ParamTag where
  name : String
  comment : String
  line : Int
  typeName : String := ""
  deriving DecidableEq, Repr

/-- The tag for the returned value. -/
structure ReturnTag where
  value : String
  line : Int
  deriving DecidableEq, Repr

/-- A doc comment that is not empty. -/
structure DocComment where
  /-- The whole description. -/
  content : String
  /-- The line on which the description starts. -/
  line : Int
  shortDescription : String := ""
  longDescription : String := ""
  blankLinesBeforeLong : Int := 0
  /-- Nothing for a comment that lacks tags or a description. -/
  blankLinesBeforeTags : Option Int := none
  params : List ParamTag := []
  returnTag : Option ReturnTag := none
  endLine : Int := 0
  deriving DecidableEq, Repr

/-- What a reader has found so far. -/
structure Reading where
  comment : Option DocComment := none
  params : List ParamTag := []
  returnTag : Option ReturnTag := none
  deriving DecidableEq, Repr

/-- A way to read the text of a doc comment token. A comment that cannot be
read gives the fault `unreadable`. -/
abbrev CommentReader := String → Except Fault Reading

end DocLint
