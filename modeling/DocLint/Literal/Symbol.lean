import DocLint.Literal.Numeral
import DocLint.Literal.Quotation

/-!
# The symbols of an expression

`symbols?` cuts an expression into symbols. Blanks and comments lie between
them. Inside brackets a line may end anywhere; outside, the expression is one
line long, not counting blank lines and comment lines around it, and that line
is not indented. A backslash joins a line with the next.

A symbol is as long as it can be. A text with a character that is part of no
symbol, or with one that stands in statements only, has no symbols at all.
-/
namespace DocLint.Literal

/-- The words with a meaning in expressions. -/
inductive Keyword
  | andWord
  | orWord
  | notWord
  | inWord
  | isWord
  | ifWord
  | elseWord
  | forWord
  | asyncWord
  | awaitWord
  | lambdaWord
  | yieldWord
  | fromWord
  deriving DecidableEq, Repr

/-- The marks with a meaning in expressions. Marks of one level that differ in
what they compute are not told apart. -/
inductive Mark
  | opening (bracket : Bracket)
  | closing (bracket : Bracket)
  | comma
  | colon
  | dot
  | assign
  | walrus
  | plus
  | minus
  | tilde
  | star
  | doubleStar
  | slash
  | product
  | shift
  | bitAnd
  | bitXor
  | bitOr
  | comparison
  deriving DecidableEq, Repr

inductive Symbol
  | quotation (value : Quotation)
  | number (value : Number)
  /-- A named constant of the given type. -/
  | constant (typeName : String)
  | name (spelling : List Char)
  | keyword (word : Keyword)
  | mark (value : Mark)
  deriving DecidableEq, Repr

/-- Where the reading of line starts stands. -/
inductive LineStart
  /-- In the blanks at the start of a line: their width since the last form
  feed, and the width before the first joined line, if not zero. -/
  | blanks (width joined : Nat)
  | comment
  deriving DecidableEq, Repr

/-- The width of blanks, given the two widths of `LineStart.blanks`. -/
def indentWidth (width joined : Nat) : Nat := if joined = 0 then width else joined

/-- Skips blank lines and comment lines. A line with anything else must not be
indented, and neither must blanks that end the text. -/
def skipLines : LineStart → List Char → Option (List Char)
  | .comment, [] => some []
  | .comment, c :: rest =>
    if c = '\n' then skipLines (.blanks 0 0) rest else skipLines .comment rest
  | .blanks width joined, [] => if indentWidth width joined = 0 then some [] else none
  | .blanks width joined, '\\' :: '\n' :: c :: rest =>
    skipLines (.blanks width (indentWidth width joined)) (c :: rest)
  | .blanks width joined, c :: rest =>
    if c = ' ' then skipLines (.blanks (width + 1) joined) rest
    else if c = '\t' then skipLines (.blanks ((width / 8 + 1) * 8) joined) rest
    else if c = '\x0c' then skipLines (.blanks 0 joined) rest
    else if c = '#' then skipLines .comment rest
    else if c = '\n' then skipLines (.blanks 0 0) rest
    else if indentWidth width joined = 0 then some (c :: rest)
    else none

/-- Skips what may lie before the next symbol, with `depth` brackets open. At
depth zero the end of the line has to be the end of the expression. -/
def skipGap (depth : Nat) : (inComment : Bool) → List Char → Option (List Char)
  | _, [] => some []
  | false, '\\' :: '\n' :: c :: rest => skipGap depth false (c :: rest)
  | inComment, c :: rest =>
    if c = '\n' then
      if depth = 0 then
        if skipLines (.blanks 0 0) rest = some [] then some [] else none
      else skipGap depth false rest
    else if inComment then skipGap depth true rest
    else if c = '#' then skipGap depth true rest
    else if c = ' ' || c = '\t' || c = '\x0c' then skipGap depth false rest
    else some (c :: rest)

/-- The constants and the keywords. -/
def Symbol.ofReserved? : String → Option Symbol
  | "None" => some (.constant "NoneType")
  | "True" | "False" => some (.constant "bool")
  | "and" => some (.keyword .andWord)
  | "or" => some (.keyword .orWord)
  | "not" => some (.keyword .notWord)
  | "in" => some (.keyword .inWord)
  | "is" => some (.keyword .isWord)
  | "if" => some (.keyword .ifWord)
  | "else" => some (.keyword .elseWord)
  | "for" => some (.keyword .forWord)
  | "async" => some (.keyword .asyncWord)
  | "await" => some (.keyword .awaitWord)
  | "lambda" => some (.keyword .lambdaWord)
  | "yield" => some (.keyword .yieldWord)
  | "from" => some (.keyword .fromWord)
  | _ => none

/-- The words that stand in statements only. -/
def statementWords : List String :=
  ["assert", "break", "class", "continue", "def", "del", "elif", "except", "finally", "global",
    "import", "nonlocal", "pass", "raise", "return", "try", "while", "with"]

def Symbol.ofWord? (word : List Char) : Option Symbol :=
  let spelling := String.ofList word
  if statementWords.contains spelling then none
  else (ofReserved? spelling).or (if isName word then some (.name (word.map plainLetter)) else none)

section

variable (lexicon : Lexicon)

/-- A quoted literal with the given flags, after its first mark. -/
def quoted? (flags : List Char) (mark : Char) (rest : List Char) :
    Option (Symbol × List Char) := do
  let flags ← QuoteFlags.ofSpelling? flags
  let (body, rest) ← closeQuote mark rest
  return (.quotation (← flags.quotation? lexicon body), rest)

/-- A word that starts with `c`, or the quoted literal that it is the flags of. -/
def wordOrQuoted? (c : Char) (rest : List Char) : Option (Symbol × List Char) :=
  let word := c :: rest.takeWhile isWordPart
  let after := rest.dropWhile isWordPart
  match after with
  | q :: body =>
    if (q = '\'' || q = '"') && (QuoteFlags.ofSpelling? word).isSome then
      quoted? lexicon word q body
    else (Symbol.ofWord? word).map fun symbol => (symbol, after)
  | [] => (Symbol.ofWord? word).map fun symbol => (symbol, [])

end

/-- The mark that starts with `c`, and what follows it. Marks that assign are
no marks of expressions, save two. -/
def mark? (c : Char) (rest : List Char) : Option (Mark × List Char) :=
  match c, rest with
  | '*', '*' :: '=' :: _ => none
  | '/', '/' :: '=' :: _ => none
  | '<', '<' :: '=' :: _ => none
  | '>', '>' :: '=' :: _ => none
  | '*', '*' :: more => some (.doubleStar, more)
  | '/', '/' :: more => some (.product, more)
  | '<', '<' :: more => some (.shift, more)
  | '>', '>' :: more => some (.shift, more)
  | '-', '>' :: _ => none
  | '<', '>' :: _ => none
  | '=', '=' :: more => some (.comparison, more)
  | '!', '=' :: more => some (.comparison, more)
  | '<', '=' :: more => some (.comparison, more)
  | '>', '=' :: more => some (.comparison, more)
  | ':', '=' :: more => some (.walrus, more)
  | '<', _ => some (.comparison, rest)
  | '>', _ => some (.comparison, rest)
  | ':', _ => some (.colon, rest)
  | '=', _ => some (.assign, rest)
  | ',', _ => some (.comma, rest)
  | '.', _ => some (.dot, rest)
  | '~', _ => some (.tilde, rest)
  | _, '=' :: _ => (bracketMark? c).map fun mark => (mark, rest)
  | '+', _ => some (.plus, rest)
  | '-', _ => some (.minus, rest)
  | '*', _ => some (.star, rest)
  | '/', _ => some (.slash, rest)
  | '%', _ => some (.product, rest)
  | '@', _ => some (.product, rest)
  | '&', _ => some (.bitAnd, rest)
  | '^', _ => some (.bitXor, rest)
  | '|', _ => some (.bitOr, rest)
  | _, _ => (bracketMark? c).map fun mark => (mark, rest)
where
  /-- The mark of a bracket. -/
  bracketMark? (c : Char) : Option Mark :=
    ((Bracket.ofOpening? c).map .opening).or ((Bracket.ofClosing? c).map .closing)

variable (lexicon : Lexicon)

/-- The symbol that starts with `c`, and what follows it. -/
def symbol? (c : Char) (rest : List Char) : Option (Symbol × List Char) :=
  if c = '\'' || c = '"' then quoted? lexicon [] c rest
  else if c.isDigit then (numeral c rest).map fun r => (.number r.1, r.2)
  else if isWordStart c then wordOrQuoted? lexicon c rest
  else if c = '.' && rest.head?.any Char.isDigit then
    (afterPoint rest).map fun r => (.number r.1, r.2)
  else if c = '.' && rest.take 2 = ['.', '.'] then some (.constant "ellipsis", rest.drop 2)
  else (mark? c rest).map fun r => (.mark r.1, r.2)

/-- The number of open brackets after a symbol, if it is not too large. -/
def depthAfter? (depth : Nat) : Symbol → Option Nat
  | .mark (.opening _) => if depth < mostBrackets then some (depth + 1) else none
  | .mark (.closing _) => some (depth - 1)
  | _ => some depth

/-- The symbols of an expression from a place with `depth` open brackets on. -/
def symbolsFrom? (depth : Nat) (text : List Char) : Option (List Symbol) :=
  match skipGap depth false text with
  | none => none
  | some [] => some []
  | some (c :: rest) => do
    let (symbol, after) ← symbol? lexicon c rest
    let depth ← depthAfter? depth symbol
    if after.length < text.length then
      return symbol :: (← symbolsFrom? depth after)
    else none
termination_by text.length

/-- Line ends of the three usual forms as line feeds. -/
def normalizeLineEnds : List Char → List Char
  | '\r' :: '\n' :: rest => '\n' :: normalizeLineEnds rest
  | c :: rest => (if c = '\r' then '\n' else c) :: normalizeLineEnds rest
  | [] => []

/-- The symbols of a text. Spaces and tabs at its start are dropped. -/
def symbols? (text : List Char) : Option (List Symbol) :=
  if text.contains '\x00' then none
  else do
    let text := normalizeLineEnds (text.dropWhile fun c => c == ' ' || c == '\t')
    symbolsFrom? lexicon 0 (← skipLines (.blanks 0 0) text)

end DocLint.Literal
