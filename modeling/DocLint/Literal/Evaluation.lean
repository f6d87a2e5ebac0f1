import DocLint.Fault
import DocLint.Literal.Expression.OfSymbols

/-!
# What a literal stands for

`Expression.ofText?` cuts a text into symbols and reads them as an expression.
The fields of the formatted texts among them have to be expressions as well. A
field may hold a formatted text in turn, which is shorter than the field is.

`Expression.shape` finds what a literal expression stands for: a text, or
something of which only the type counts. `readText` does so for a text that is
read as an expression, and asks for a text.

An expression that is well formed and yet no literal is refused by `shape` only,
after what stands to the left of it. So a table with a list for a key is refused
for that, if something that is no literal comes after it.
-/
namespace DocLint.Literal

namespace Expression

/-- Whether all fields of a symbol are read by a reader. Each field is read as
if it stood in brackets. -/
def fieldsAreRead (read : List Char → Option Expression) : Symbol → Bool
  | .quotation (.formatted fields) => fields.all fun field => (read ('(' :: field ++ [')'])).isSome
  | _ => true

/-- Reads a text as an expression, with formatted texts in each other up to a
given depth. -/
def ofTextWithin? (lexicon : Lexicon) : Nat → List Char → Option Expression
  | 0, _ => none
  | depth + 1, source => do
    let symbols ← symbols? lexicon source
    if symbols.all (fieldsAreRead (ofTextWithin? lexicon depth)) then ofSymbols? symbols else none

def ofText? (lexicon : Lexicon) (source : List Char) : Option Expression :=
  ofTextWithin? lexicon (source.length + 1) source

end Expression

/-- What a literal stands for: a text, or something else of which only the type
matters, and the type of the first part that can be changed, if there is one. -/
inductive Shape
  | text (value : List Char)
  | other (typeName : String) (mutablePart : Option String)
  deriving DecidableEq, Repr

/-- Why an expression stands for nothing. -/
inductive Refusal
  | notLiteral
  /-- A value stands where only an immutable one can. -/
  | unhashable (typeName : String)
  /-- An imaginary number is added to a whole number that is too large. -/
  | wholeTooLarge
  deriving DecidableEq, Repr

/-- A refusal as the fault of reading a text. -/
def Refusal.fault (lexicon : Lexicon) (literal : String) : Refusal → Fault
  | notLiteral => .unreadable (.badLiteral (lexicon.refusal literal))
  | unhashable typeName => .unhashable typeName
  | wholeTooLarge => .wholeTooLarge

namespace Shape

def mutablePart : Shape → Option String
  | text _ => none
  | other _ part => part

def ofNumber : Number → Shape
  | .whole _ => other "int" none
  | .fractional => other "float" none
  | .imaginary => other "complex" none

/-- A member of a set or a key of a table: nothing in it can be changed. -/
def asMember (shape : Shape) : Except Refusal Shape :=
  match shape.mutablePart with
  | some typeName => .error (.unhashable typeName)
  | none => .ok shape

end Shape

/-- The least whole number that is rounded beyond all fractional numbers of
double precision. -/
def fractionalBound : Nat := Nat.pow 2 1024 - Nat.pow 2 970

/-- The sum of a real number and an imaginary one. A whole number is made
fractional for it. -/
def Number.addImaginary : Number → Except Refusal Number
  | whole value => if value < fractionalBound then .ok imaginary else .error .wholeTooLarge
  | fractional => .ok imaginary
  | imaginary => .error .notLiteral

namespace Expression

/-- The number that an expression with at most one sign is, but for the sign. -/
def signedNumber? : Expression → Option Number
  | .number value => some value
  | .signed (.number value) => some value
  | _ => none

mutual

/-- What an expression stands for. Parts are looked at from left to right. -/
def shape : Expression → Except Refusal Shape
  | .text value => .ok (.text value)
  | .bytes => .ok (.other "bytes" none)
  | .number value => .ok (.ofNumber value)
  | .constant typeName => .ok (.other typeName none)
  | .tuple items => do
    let shapes ← shapes items
    return .other "tuple" (shapes.findSome? Shape.mutablePart)
  | .list items => do
    let _ ← shapes items
    return .other "list" (some "list")
  | .set items => do
    members items
    return .other "set" (some "set")
  | .dict entries => do
    keys entries
    return .other "dict" (some "dict")
  | .signed (.number value) => .ok (.ofNumber value)
  | .sum left (.number .imaginary) =>
    match left.signedNumber? with
    | some value => value.addImaginary.map .ofNumber
    | none => .error .notLiteral
  | .signed _ | .sum _ _ | .name _ | .place | .starred _ | .other => .error .notLiteral

def shapes : List Expression → Except Refusal (List Shape)
  | [] => .ok []
  | item :: rest => do
    let first ← shape item
    return first :: (← shapes rest)

def members : List Expression → Except Refusal Unit
  | [] => .ok ()
  | item :: rest => do
    let _ ← (← shape item).asMember
    members rest

def keys : List (Expression × Expression) → Except Refusal Unit
  | [] => .ok ()
  | (key, value) :: rest => do
    let keyShape ← shape key
    let _ ← shape value
    let _ ← keyShape.asMember
    keys rest

end

/-- What a text stands for that is read as an expression. -/
def shapeOfText (lexicon : Lexicon) (source : List Char) : Except Refusal Shape :=
  match ofText? lexicon source with
  | none => .error .notLiteral
  | some expression => expression.shape

end Expression

/-- The text that a literal stands for. -/
def readText (lexicon : Lexicon) (literal : String) : Except Fault (List Char) :=
  match Expression.shapeOfText lexicon literal.toList with
  | .ok (.text value) => .ok value
  | .ok (.other typeName _) => .error (.unreadable (.notText typeName))
  | .error refusal => .error (refusal.fault lexicon literal)

end DocLint.Literal
