/-!
# Decimal numbers

A `Decimal` is a whole number of digits times a power of ten, with a sign that
zero has as well. `Decimal.text` writes it with the digits that it has but for
zeros at the end. The point stands where it belongs if the first digit counts
at least `10 ^ -4` and less than `10 ^ 16`, and there is a digit on either side
of it. All other numbers are written with the first digit before the point and
with an exponent of two digits or more.
-/
namespace DocLint

/-- The number `digits * 10 ^ exponent`, or its opposite. -/
structure Decimal where
  negative : Bool
  digits : Nat
  exponent : Int
  deriving BEq, DecidableEq, Repr, Inhabited

namespace Decimal

/-- The most digits of a whole number that is read or written in base ten. -/
def mostDigits : Nat := 4300

def isZero (number : Decimal) : Bool := number.digits == 0

/-- The digits of a number without zeros at the end. Zero has none. -/
def significant (number : Decimal) : List Char :=
  ((Nat.toDigits 10 number.digits).reverse.dropWhile (· == '0')).reverse

/-- How many of the digits stand before the point. It is negative for zeros
between the point and the first digit. -/
def pointAt (number : Decimal) : Int :=
  if number.isZero then 1 else (Nat.toDigits 10 number.digits).length + number.exponent

/-- Digits, or a zero in their place. -/
def orZero (digits : List Char) : List Char := if digits.isEmpty then ['0'] else digits

/-- Digits with the point after the first `before` of them, and zeros where
there are no digits. -/
def positional (digits : List Char) (before : Int) : List Char :=
  let zeros := List.replicate (-before).toNat '0'
  let whole := digits.take before.toNat
  let filled := whole ++ List.replicate (before.toNat - whole.length) '0'
  orZero filled ++ '.' :: orZero (zeros ++ digits.drop before.toNat)

def exponentText (exponent : Int) : List Char :=
  let digits := Nat.toDigits 10 exponent.natAbs
  let padded := List.replicate (2 - digits.length) '0' ++ digits
  'e' :: (if exponent < 0 then '-' else '+') :: padded

/-- Digits with the point after the first of them, and an exponent. No point is
needed after a single digit. -/
def scientific (digits : List Char) (exponent : Int) : List Char :=
  let part := digits.drop 1
  digits.take 1 ++ (if part.isEmpty then [] else '.' :: part) ++ exponentText exponent

def unsignedText (number : Decimal) : List Char :=
  let before := number.pointAt
  if -4 < before && before ≤ 16 then positional number.significant before
  else scientific number.significant (before - 1)

def text (number : Decimal) : String :=
  String.ofList ((if number.negative then ['-'] else []) ++ number.unsignedText)

end Decimal

end DocLint
