/-!
# Parameters of a function expression

In the list of parameters of a function expression, parameters with a default
value come after those without. A slash stands once, after a parameter and
before any star. After a star, with a parameter or alone, parameters come in any
order; there is one at least after a star alone. Two stars and a name come last.

`ParameterPlace` says what has come already, and its operations what may come
next.
-/
namespace DocLint.Literal

/-- A place in a list of parameters, by what stands before it. -/
inductive ParameterPlace
  | start
  /-- After parameters without a default value. -/
  | plain
  /-- After a default value. -/
  | defaulted
  /-- After a slash and parameters without a default value. -/
  | slashPlain
  /-- After a slash and a default value. -/
  | slashDefaulted
  /-- Right after a star alone. -/
  | bareStar
  | afterStar
  /-- After two stars and a name. -/
  | last
  deriving DecidableEq, Repr

namespace ParameterPlace

/-- The place after a parameter without a default value. -/
def name? : ParameterPlace → Option ParameterPlace
  | start | plain => some plain
  | slashPlain => some slashPlain
  | bareStar | afterStar => some afterStar
  | defaulted | slashDefaulted | last => none

/-- The place after a parameter with a default value. -/
def default? : ParameterPlace → Option ParameterPlace
  | start | plain | defaulted => some defaulted
  | slashPlain | slashDefaulted => some slashDefaulted
  | bareStar | afterStar => some afterStar
  | last => none

def slash? : ParameterPlace → Option ParameterPlace
  | plain => some slashPlain
  | defaulted => some slashDefaulted
  | _ => none

def takesStar : ParameterPlace → Bool
  | bareStar | afterStar | last => false
  | _ => true

def takesDoubleStar : ParameterPlace → Bool
  | bareStar | last => false
  | _ => true

def canEnd (place : ParameterPlace) : Bool := place != bareStar

end ParameterPlace

end DocLint.Literal
