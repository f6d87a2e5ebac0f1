import DocLint.Token.Sequence

/-!
# Signatures

What the header of a declaration says: the declared name, and the names of the
parameters between its parentheses.

The parameter names are found by a machine that reads the tokens from one
parenthesis to the other. It counts brackets, and at depth one it knows
whether a parameter may start here and whether it is among the parameters of a
lambda. Annotations and default values never give a name.
-/
namespace DocLint

/-- The state of the machine that reads parameter names. -/
structure ParameterScan where
  /-- The number of brackets that are open. -/
  depth : Int := 0
  /-- Whether a parameter may start with the next token. -/
  expecting : Bool := false
  /-- Whether the next tokens are parameters of a lambda. -/
  inLambda : Bool := false
  /-- The names so far. -/
  names : List String := []
  deriving DecidableEq, Repr

namespace ParameterScan

/-- What a token at bracket depth one does. -/
def stepInside (s : ParameterScan) (token : Token) : ParameterScan :=
  if s.inLambda then
    if token.isOperator ":" then { s with inLambda := false } else s
  else if token.kind == .name && token.text == "lambda" then
    { s with inLambda := true, expecting := false }
  else if token.isOperator "," then { s with expecting := true }
  else if !s.expecting then s
  else if token.isOperator "*" || token.isOperator "**" then s
  else if token.isOperator "/" then { s with expecting := false }
  else if token.kind == .name then
    { s with names := s.names ++ [token.text], expecting := false }
  else { s with expecting := false }

def step (s : ParameterScan) (token : Token) : ParameterScan :=
  if token.kind == .whitespace || token.kind == .comment then s
  else if token.opensBracket then
    { s with depth := s.depth + 1, expecting := s.expecting || s.depth + 1 == 1 }
  else if token.closesBracket then { s with depth := s.depth - 1 }
  else if s.depth != 1 then s
  else s.stepInside token

def run (s : ParameterScan) (tokens : List Token) : ParameterScan := tokens.foldl step s

end ParameterScan

namespace TokenSequence

/-- The token at a position that may count from the end: `-1` is the last. -/
def getFromEnds? (s : TokenSequence) (position : Int) : Option Token :=
  if 0 ≤ position then s.tokens[position.toNat]?
  else if 0 ≤ position + s.length then s.tokens[(position + s.length).toNat]?
  else none

/-- The tokens from one position to another, both included. A position before
the first token counts from the end of the sequence. -/
def span (s : TokenSequence) (first last : Int) : Except Fault (List Token) :=
  if last < first then .ok []
  else if first + s.length < 0 ∨ s.length ≤ last then .error .spanOutOfRange
  else .ok ((List.range (last - first + 1).toNat).filterMap fun k : Nat =>
    s.getFromEnds? (first + k))

/-- The name that the declaration at `index` declares. It stands before the
parentheses; without one the name is empty. -/
def declaredName (s : TokenSequence) (index : Int) : Except Fault String :=
  match s.findNext (.oneOf [.name]) (index + 1) with
  | none => .ok ""
  | some found => do
    let declaration ← s.get index
    match declaration.extent.parenOpener with
    | some opener => if opener < found then return "" else return (← s.get found).text
    | none => return (← s.get found).text

/-- The names of the parameters of the declaration at `index`, in order. -/
def parameterNames (s : TokenSequence) (index : Int) : Except Fault (List String) := do
  let declaration ← s.get index
  match declaration.extent.parenOpener, declaration.extent.parenCloser with
  | some opener, some closer =>
    return (ParameterScan.run {} (← s.span opener closer)).names
  | _, _ => return []

end TokenSequence

end DocLint
