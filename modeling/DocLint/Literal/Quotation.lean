import DocLint.Literal.Field

/-!
# Quoted literals

A quoted literal is an optional run of flags and a text between quotes. The
flags say whether escapes count, and whether the literal is a text, bytes or a
formatted text.
-/
namespace DocLint.Literal

/-- What a quoted literal holds. -/
inductive Quotation
  | text (value : List Char)
  | bytes
  /-- A text with places to fill in, given the texts of the expressions there.
  It is no literal. -/
  | formatted (fields : List (List Char))
  deriving DecidableEq, Repr

def Quotation.isBytes : Quotation → Bool
  | bytes => true
  | _ => false

def Quotation.text? : Quotation → Option (List Char)
  | text value => some value
  | _ => none

inductive QuoteFlags
  | text (raw : Bool)
  | bytes (raw : Bool)
  | formatted (raw : Bool)
  deriving DecidableEq, Repr

/-- The flags with a spelling, in lower or upper case. -/
def QuoteFlags.ofSpelling? (spelling : List Char) : Option QuoteFlags :=
  match spelling.map Char.toLower with
  | [] | ['u'] => some (.text false)
  | ['r'] => some (.text true)
  | ['b'] => some (.bytes false)
  | ['b', 'r'] | ['r', 'b'] => some (.bytes true)
  | ['f'] => some (.formatted false)
  | ['f', 'r'] | ['r', 'f'] => some (.formatted true)
  | _ => none

/-- The literal with the given flags and the given text between its quotes. -/
def QuoteFlags.quotation? (lexicon : Lexicon) (flags : QuoteFlags) (body : List Char) :
    Option Quotation :=
  match flags with
  | text true => some (.text body)
  | text false => (unescape lexicon body).map .text
  | bytes true => if body.all (·.toNat < 128) then some .bytes else none
  | bytes false => if bytesWellFormed body then some .bytes else none
  | formatted raw => (fields? lexicon raw body).map .formatted

end DocLint.Literal
