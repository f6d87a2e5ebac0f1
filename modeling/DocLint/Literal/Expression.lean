import DocLint.Literal.Symbol

/-!
# Expressions

A literal expression is a constant, a collection of literal expressions, a
signed number, or the sum of a real and an imaginary number. Quoted literals
side by side are one literal. Of all other expressions only as much is kept as
it takes to tell where they can stand.
-/
namespace DocLint.Literal

/-- An expression, as far as it may be a literal. -/
inductive Expression
  | text (value : List Char)
  | bytes
  | number (value : Number)
  /-- A named constant of the given type. -/
  | constant (typeName : String)
  | tuple (items : List Expression)
  | list (items : List Expression)
  | set (items : List Expression)
  | dict (entries : List (Expression × Expression))
  /-- A plus or a minus sign and what it stands before. -/
  | signed (operand : Expression)
  /-- A sum or a difference. -/
  | sum (left right : Expression)
  | name (spelling : List Char)
  /-- A member, an item or a slice of something. -/
  | place
  /-- The items of something, among other items. -/
  | starred (operand : Expression)
  | other
  deriving Repr

namespace Expression

/-- The quoted literals side by side as one. Bytes do not mix with the others. -/
def ofQuotations (parts : List Quotation) : Option Expression :=
  if parts.all Quotation.isBytes then some .bytes
  else if parts.any Quotation.isBytes then none
  else some (((parts.mapM Quotation.text?).map fun values => .text values.flatten).getD .other)

/-- A call of an expression without arguments. The empty set is written so. -/
def called : Expression → Expression
  | name ['s', 'e', 't'] => .set []
  | _ => other

def ofSign (mark : Mark) (operand : Expression) : Expression :=
  if mark = .tilde then other else signed operand

def isStarred : Expression → Bool
  | starred _ => true
  | _ => false

mutual

/-- Whether an expression can be what a loop assigns to. -/
def isTarget : Expression → Bool
  | name _ => true
  | place => true
  | tuple items => areTargets items
  | list items => areTargets items
  | _ => false

/-- Whether each of some items can be assigned to, or is starred and can. -/
def areTargets : List Expression → Bool
  | [] => true
  | .starred item :: rest => isTarget item && areTargets rest
  | item :: rest => isTarget item && areTargets rest

end

end Expression

end DocLint.Literal
