import DocLint.Token

/-!
# Lexemes

A lexeme is what a tokenizer delivers: a piece of text with its lexical type
and its position. Block structure shows in the lexemes `indent` and `dedent`,
which have no class of their own among the tokens. Lexemes without width are
dropped from a token sequence.
-/
namespace DocLint

/-- The lexical types. A type without a meaning here keeps its written name. -/
inductive LexemeType
  | encoding
  | name
  | operator
  | number
  | string
  /-- The end of a logical line. -/
  | newline
  /-- The end of a blank line, or of a line that goes on. -/
  | lineBreak
  | indent
  | dedent
  | comment
  | endMarker
  | other (label : String)
  deriving DecidableEq, Repr

namespace LexemeType

def ofLabel (label : String) : LexemeType :=
  match label with
  | "ENCODING" => encoding
  | "NAME" => name
  | "OP" => operator
  | "NUMBER" => number
  | "STRING" => string
  | "NEWLINE" => newline
  | "NL" => lineBreak
  | "INDENT" => indent
  | "DEDENT" => dedent
  | "COMMENT" => comment
  | "ENDMARKER" => endMarker
  | _ => other label

/-- Whether a lexeme of this type has a place in a token sequence. -/
def isKept : LexemeType → Bool
  | encoding | dedent | endMarker => false
  | _ => true

end LexemeType

/-- A piece of text as a tokenizer delivers it. -/
structure Lexeme where
  type : LexemeType
  text : String
  line : Int
  column : Int
  deriving DecidableEq, Repr

namespace Lexeme

/-- Whether a lexeme has a place in a token sequence. -/
def isKept (lexeme : Lexeme) : Bool := lexeme.type.isKept

def isOperator (lexeme : Lexeme) (text : String) : Bool :=
  lexeme.type == .operator && lexeme.text == text

def opensBracket (lexeme : Lexeme) : Bool :=
  lexeme.isOperator "(" || lexeme.isOperator "[" || lexeme.isOperator "\x7b"

def closesBracket (lexeme : Lexeme) : Bool :=
  lexeme.isOperator ")" || lexeme.isOperator "]" || lexeme.isOperator "\x7d"

/-- Whether a lexeme begins the declaration of a function or a class. -/
def isDeclaration (lexeme : Lexeme) : Bool :=
  lexeme.type == .name && (lexeme.text == "def" || lexeme.text == "class")

/-- The class of a lexeme, looked at on its own. -/
def kind (lexeme : Lexeme) : TokenKind :=
  match lexeme.type with
  | .lineBreak | .indent => .whitespace
  | .newline => .terminator
  | .comment => .comment
  | .name =>
    if lexeme.text == "def" then .function
    else if lexeme.text == "class" then .classKeyword
    else if lexeme.text == "return" then .returnKeyword
    else .name
  | .operator => if lexeme.text == ";" then .terminator else .operator
  | .number => .number
  | .string => .string
  | .encoding | .dedent | .endMarker | .other _ => .other

end Lexeme

end DocLint
