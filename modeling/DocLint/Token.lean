/-!
# Tokens

A token is a piece of a source file with its class. The token of a function or
class declaration also holds where its scope and its parentheses begin and end,
as positions in the sequence that the token belongs to. These positions are
data: nothing here promises that they are in range or in order.
-/
namespace DocLint

/-- The classes of tokens. -/
inductive TokenKind
  /-- The start of a file. -/
  | openTag
  | whitespace
  | comment
  /-- A string that documents a declaration. -/
  | docComment
  | function
  | classKeyword
  | returnKeyword
  /-- The end of a statement. -/
  | terminator
  | string
  | name
  | operator
  | number
  | other
  deriving DecidableEq, Repr

/-- Where the parts of a declaration are. A scope ends with its closer. -/
structure Extent where
  scopeOpener : Option Int := none
  scopeCloser : Option Int := none
  parenOpener : Option Int := none
  parenCloser : Option Int := none
  deriving DecidableEq, Repr

/-- A piece of a source file. -/
structure Token where
  kind : TokenKind
  text : String
  line : Int
  column : Int := 0
  extent : Extent := {}
  deriving DecidableEq, Repr

namespace Token

def isOperator (token : Token) (text : String) : Bool :=
  token.kind == .operator && token.text == text

def opensBracket (token : Token) : Bool :=
  token.isOperator "(" || token.isOperator "[" || token.isOperator "\x7b"

def closesBracket (token : Token) : Bool :=
  token.isOperator ")" || token.isOperator "]" || token.isOperator "\x7d"

end Token

end DocLint
