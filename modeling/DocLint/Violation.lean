import DocLint.Check
import DocLint.Text.Template
import DocLint.Token.Sequence

/-!
# Violations

A violation is a complaint about one token of a sequence. Its message is a
template filled with its arguments; a violation without arguments has the
template itself as its message. Its line is the token's line unless another
line is given.
-/
namespace DocLint

/-- A complaint about one token. -/
structure Violation where
  code : String
  message : String
  tokenIndex : Int
  line : Int
  args : List String := []
  deriving DecidableEq, Repr

namespace Violation

def messageOf (template : String) (args : List String) : Except Fault String :=
  if args.isEmpty then .ok template else Text.fill template args

/-- The violation with the given code at the token of the given index. -/
def atToken (code template : String) (tokens : TokenSequence) (index : Int)
    (args : List String := []) (line : Option Int := none) : Except Fault Violation := do
  let token ← tokens.get index
  let message ← messageOf template args
  return { code, message, tokenIndex := index, line := line.getD token.line, args }

end Violation

/-- The violation of a check at the token of the given index. -/
def Check.report (check : Check) (tokens : TokenSequence) (index : Int)
    (args : List String := []) (line : Option Int := none) : Except Fault Violation :=
  Violation.atToken check.code check.template tokens index args line

end DocLint
