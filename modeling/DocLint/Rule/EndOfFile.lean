import DocLint.Violation

/-!
# The end of a file

After the last line with anything on it there has to be exactly one blank line.
The rule looks at a file once, at its first open tag, and compares the line of
the last token with the line of the last token that is not white space.
-/
namespace DocLint.EndOfFile

/-- Whether the token at `index` has an open tag before it. -/
def hasEarlierTag (tokens : TokenSequence) (index : Int) : Bool :=
  index != 0 && (tokens.findPrevious (.oneOf [.openTag]) (index - 1)).isSome

/-- The position of the last token that is not white space, or the first token. -/
def lastCode (tokens : TokenSequence) : Nat :=
  (tokens.findPrevious (.noneOf [.whitespace]) ((tokens.length : Int) - 1)).getD 0

def check (tokens : TokenSequence) (index : Int) : Except Fault (List Violation) := do
  if hasEarlierTag tokens index then return []
  else if tokens.length = 0 then return []
  else
    let last ← tokens.get ((tokens.length : Int) - 1)
    let code ← tokens.get (lastCode tokens)
    let blankLines := last.line - code.line
    if blankLines = 0 then
      return [← Check.report .endBlankLineMissing tokens (lastCode tokens) ["0"]]
    else if blankLines > 1 then
      return [← Check.report .endTooManyBlankLines tokens (lastCode tokens) [toString blankLines]]
    else return []

end DocLint.EndOfFile
