import DocLint.Decimal
import DocLint.Literal.Escape
import DocLint.Literal.Name

/-!
# Numerals

A numeral is a whole number (decimal, or with a base mark `0x`, `0o`, `0b`), a
fractional number, or either of them followed by `j` for an imaginary number.
An underscore may stand between two digits. A decimal whole number does not
start with a zero unless it is zero.

No numeral is followed directly by a word, save one that starts like a word
that may follow a number (`endWords`).
-/
namespace DocLint.Literal

/-- A number. Of all but the whole numbers only the type counts. -/
inductive Number
  | whole (value : Nat)
  | fractional
  | imaginary
  deriving DecidableEq, Repr

/-- What follows the digits of a number, of which the first is already read.
An underscore has to be followed by a digit. -/
def afterDigits (isDigit : Char → Bool) : List Char → Option (List Char)
  | '_' :: c :: rest => if isDigit c then afterDigits isDigit rest else none
  | ['_'] => none
  | c :: rest => if isDigit c then afterDigits isDigit rest else some (c :: rest)
  | [] => some []

/-- What follows the digits after a base mark. -/
def afterBaseDigits (isDigit : Char → Bool) (rest : List Char) : Option (List Char) :=
  let digits := match rest with
    | '_' :: more => more
    | more => more
  match digits with
  | c :: more => if isDigit c then afterDigits isDigit more else none
  | [] => none

/-- The words that may follow a number with nothing between. -/
def endWords : List (List Char) :=
  ["and", "else", "for", "if", "in", "is", "or"].map String.toList

/-- Whether a number may end before a text. -/
def mayEnd (rest : List Char) : Bool :=
  !rest.head?.any isWordPart || endWords.any (·.isPrefixOf rest)

/-- The end of a numeral: it is imaginary if `j` follows, and otherwise the
given number, if that is one. -/
def endNumeral (number : Option Number) (rest : List Char) : Option (Number × List Char) :=
  if rest.head? = some 'j' || rest.head? = some 'J' then
    if mayEnd rest.tail then some (.imaginary, rest.tail) else none
  else if mayEnd rest then number.map fun value => (value, rest)
  else none

/-- The exponent of a numeral, if there is one, and its end. An `e` that starts
no exponent can start the word `else`. -/
def afterExponent (number beforeElse : Option Number) (rest : List Char) :
    Option (Number × List Char) :=
  match rest with
  | e :: more =>
    if e = 'e' || e = 'E' then
      let signed := more.head? = some '+' || more.head? = some '-'
      match if signed then more.tail else more with
      | c :: digits =>
        if c.isDigit then
          (afterDigits Char.isDigit digits).bind (endNumeral (some .fractional))
        else if !signed && "else".toList.isPrefixOf rest then
          beforeElse.map fun value => (value, rest)
        else none
      | [] => none
    else endNumeral number rest
  | [] => endNumeral number []

def afterPoint (rest : List Char) : Option (Number × List Char) :=
  let found := some Number.fractional
  match rest with
  | c :: more =>
    if c.isDigit then (afterDigits Char.isDigit more).bind (afterExponent found found)
    else afterExponent found found rest
  | [] => some (.fractional, [])

/-- The decimal whole number with the given digits. -/
def wholeNumber? (digits : List Char) : Option Number :=
  if digits.all (· == '0') then some (.whole 0)
  else if digits.head? = some '0' || digits.length > Decimal.mostDigits then none
  else some (.whole (digitsValue 10 digits))

/-- A decimal numeral that starts with the digit `c`. Digits with a zero before
them are a number in one place only: before `else` they are a fractional one. -/
def decimalNumeral (c : Char) (rest : List Char) : Option (Number × List Char) := do
  let after ← afterDigits Char.isDigit rest
  match after with
  | '.' :: more => afterPoint more
  | _ =>
    let digits := (c :: rest.take (rest.length - after.length)).filter Char.isDigit
    let number := wholeNumber? digits
    afterExponent number (if c = '0' then number.or (some .fractional) else number) after

/-- The end of a numeral with a base mark, given its digits and what follows. -/
def endBased (base : Nat) (digits rest : List Char) : Option (Number × List Char) :=
  if mayEnd rest then some (.whole (digitsValue base (digits.filter (· != '_'))), rest) else none

def basedNumeral (base : Nat) (isDigit : Char → Bool) (rest : List Char) :
    Option (Number × List Char) := do
  let after ← afterBaseDigits isDigit rest
  endBased base (rest.take (rest.length - after.length)) after

/-- A numeral that starts with the digit `c`: the number, and what follows it. -/
def numeral (c : Char) (rest : List Char) : Option (Number × List Char) :=
  match c, rest with
  | '0', m :: more =>
    if m = 'x' || m = 'X' then basedNumeral 16 isHex more
    else if m = 'o' || m = 'O' then basedNumeral 8 isOctal more
    else if m = 'b' || m = 'B' then basedNumeral 2 (fun d => d == '0' || d == '1') more
    else decimalNumeral c rest
  | _, _ => decimalNumeral c rest

end DocLint.Literal
