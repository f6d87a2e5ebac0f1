import DocLint.Registry
import DocLint.Rule.EndOfFile
import DocLint.Rule.FunctionComment.Extended
import DocLint.Token.OfLexemes

/-!
# Checkers

A checker is what the host runs on the lexemes of a file. It has the messages
that it declares to the host, taken from a registry, and it reports each
violation under the symbol that the registry gives to the violation's code. A
code without a symbol is its own symbol. With values in the registry that have
no text there is no checker.
-/
namespace DocLint

/-- What the host is told about one violation. -/
structure Message where
  symbol : String
  line : Int
  args : List String
  deriving DecidableEq, Repr

/-- A check of whole files. -/
structure Checker extends Registry.Listing where
  name : String
  /-- The class of tokens at which the rule is applied. -/
  anchor : TokenKind
  rule : TokenSequence → Int → Except Fault (List Violation)

namespace Checker

def endOfFileIds : List String := ["C9101", "C9102"]

def functionIds : List String :=
  ["C9201", "C9202", "W9203", "C9204", "C9205", "C9206", "C9207", "C9208", "C9209", "C9210",
    "C9211", "C9212", "C9213", "C9214", "C9215", "C9216", "C9217", "C9218"]

def endOfFile (listing : Registry.Listing) : Checker :=
  { listing with
    name := "conventions-end-of-file"
    anchor := .openTag
    rule := EndOfFile.check }

def functionComment (listing : Registry.Listing) (rule : FunctionRule) : Checker :=
  { listing with
    name := "conventions-function-comment"
    anchor := .function
    rule := rule.check }

def symbolFor (checker : Checker) (code : String) : String :=
  (Assoc.lookup code checker.symbols).getD code

def message (checker : Checker) (violation : Violation) : Message :=
  { symbol := checker.symbolFor violation.code, line := violation.line, args := violation.args }

def violations (checker : Checker) (tokens : TokenSequence) : Except Fault (List Violation) := do
  let found ← (tokens.indicesOf checker.anchor).mapM fun i : Nat => checker.rule tokens i
  return found.flatten

/-- What the host is told about a file. -/
def run (checker : Checker) (lexemes : List Lexeme) : Except Fault (List Message) := do
  return (← checker.violations (TokenSequence.ofLexemes lexemes)).map checker.message

end Checker

end DocLint
