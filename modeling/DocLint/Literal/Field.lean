import DocLint.Literal.Escape
import DocLint.Literal.Quote

/-!
# Brackets and replacement fields

A formatted text has fields between braces. A field is the text of an
expression, perhaps `=` after it, a conversion (`!s`, `!r` or `!a`), and a format
after a colon, which is a formatted text as well. Outside of formats a doubled
brace stands for itself. Fields lie at most two deep.

`fields?` finds the texts of the expressions, those in formats included. Whether
they are expressions is not looked at here. A text that cannot be cut into
fields has none.
-/
namespace DocLint.Literal

inductive Bracket
  | round
  | square
  | curly
  deriving DecidableEq, Repr

namespace Bracket

def ofOpening? : Char → Option Bracket
  | '(' => some round
  | '[' => some square
  | '\x7b' => some curly
  | _ => none

def ofClosing? : Char → Option Bracket
  | ')' => some round
  | ']' => some square
  | '\x7d' => some curly
  | _ => none

end Bracket

/-- The most brackets that can be open. -/
def mostBrackets : Nat := 200

variable (lexicon : Lexicon)

/-- What follows the plain text at the start of a formatted text: a field, the
brace that closes the format, or nothing. A backslash does not hide a brace, but
the name of a character does, and the escapes of a text that is not raw have to
be well formed. -/
def afterPlain? (raw inFormat : Bool) (text : List Char) : Option (List Char) :=
  match text with
  | [] => some []
  | '\\' :: c :: rest =>
    if raw || c = '\x7b' || c = '\x7d' then afterPlain? raw inFormat (c :: rest)
    else
      match escape lexicon c rest with
      | some (_, count) => afterPlain? raw inFormat (rest.drop count)
      | none => none
  | '\x7b' :: rest =>
    match rest with
    | '\x7b' :: more => if inFormat then some text else afterPlain? raw inFormat more
    | _ => some text
  | '\x7d' :: rest =>
    if inFormat then some text
    else
      match rest with
      | '\x7d' :: more => afterPlain? raw inFormat more
      | _ => none
  | _ :: rest => afterPlain? raw inFormat rest
termination_by text.length
decreasing_by all_goals simp <;> omega

/-- Whether a comparison with `=` stands at the start of a text. -/
def startsComparison : List Char → Bool
  | c :: '=' :: _ => ['!', '=', '<', '>'].contains c
  | _ => false

/-- What follows the text of an expression in a field, given the brackets that
are open. Quoted texts and what stands in brackets are passed over. -/
def afterExpression? (brackets : List Bracket) (text : List Char) : Option (List Char) :=
  match text with
  | [] => none
  | c :: rest =>
    if c = '#' then none
    else if c = '\'' || c = '"' then
      match closeQuote c rest with
      | some (_, after) =>
        if after.length ≤ rest.length then afterExpression? brackets after else none
      | none => none
    else
      match Bracket.ofOpening? c, brackets with
      | some bracket, _ =>
        if brackets.length < mostBrackets then afterExpression? (bracket :: brackets) rest
        else none
      | none, bracket :: more =>
        match Bracket.ofClosing? c with
        | some closed => if closed = bracket then afterExpression? more rest else none
        | none => afterExpression? brackets rest
      | none, [] =>
        if startsComparison text then afterExpression? [] rest.tail
        else if ['!', ':', '=', '\x7d'].contains c then some text
        else if c = ')' || c = ']' then none
        else afterExpression? [] rest
termination_by text.length
decreasing_by all_goals simp <;> omega

/-- Whether the text of an expression in a field holds anything but blanks, and
no backslash. -/
def isFieldText (text : List Char) : Bool :=
  text.any (fun c => !([' ', '\t', '\n', '\x0c'].contains c)) && !text.contains '\\'

/-- What follows the `=` after an expression and the blanks after that. -/
def afterEquals : List Char → List Char
  | '=' :: rest => rest.dropWhile fun c => [' ', '\t', '\n', '\x0b', '\x0c', '\r'].contains c
  | text => text

/-- What follows the conversion of a field. -/
def afterConversion? : List Char → Option (List Char)
  | '!' :: c :: rest => if ['s', 'r', 'a'].contains c then some rest else none
  | ['!'] => none
  | text => some text

/-- The texts of the expressions in a formatted text, and what follows it, which
is nothing or starts with the brace that closes the format. `depth` is the
number of fields that the text lies in. -/
def fieldsFrom? (raw : Bool) : Nat → Nat → List Char → Option (List (List Char) × List Char)
  | 0, _, _ => none
  | fuel + 1, depth, text => do
    match ← afterPlain? lexicon raw (decide (0 < depth)) text with
    | '\x7b' :: rest =>
      let after ← afterExpression? [] rest
      let field := rest.take (rest.length - after.length)
      if depth < 2 ∧ isFieldText field then
        let after ← afterConversion? (afterEquals after)
        let (inner, after) ← match after with
          | ':' :: format => fieldsFrom? raw fuel (depth + 1) format
          | other => some ([], other)
        match after with
        | '\x7d' :: rest =>
          let (more, rest) ← fieldsFrom? raw fuel depth rest
          return (field :: inner ++ more, rest)
        | _ => none
      else none
    | rest => some ([], rest)

/-- The texts of the expressions in a formatted text. -/
def fields? (raw : Bool) (text : List Char) : Option (List (List Char)) :=
  (fieldsFrom? lexicon raw (text.length + 1) 0 text).map Prod.fst

end DocLint.Literal
