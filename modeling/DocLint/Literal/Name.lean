import DocLint.Literal.NameRanges
import DocLint.Text.Word

/-!
# Names

A name starts with a letter or the underscore and goes on with letters, digits,
marks and underscores. A word is taken to reach over everything beyond ASCII
first, and is then a name or nothing at all.

Letters that differ in their form only are one letter in a name. The one name
with a meaning is `set`, so the forms of its letters are all that counts.
-/
namespace DocLint.Literal

/-- Whether a word reaches over a character. -/
def isWordPart (c : Char) : Bool := c.isAlphanum || c == '_' || decide (128 ≤ c.toNat)

def isWordStart (c : Char) : Bool := isWordPart c && !c.isDigit

def startsName (c : Char) : Bool :=
  if c.toNat < 128 then c.isAlpha || c == '_' else Text.inRanges nameStartRanges c.toNat

def continuesName (c : Char) : Bool :=
  startsName c || c.isDigit || Text.inRanges nameMiddleRanges c.toNat

def isName : List Char → Bool
  | [] => false
  | c :: rest => startsName c && rest.all continuesName

/-- The other forms of the letters of `set`. -/
def letterForms : List (Char × List Nat) := [
  ('s', [0x17F, 0x2E2, 0x209B, 0xFF53, 0x1D42C, 0x1D460, 0x1D494, 0x1D4C8, 0x1D4FC, 0x1D530,
    0x1D564, 0x1D598, 0x1D5CC, 0x1D600, 0x1D634, 0x1D668, 0x1D69C]),
  ('e', [0x1D49, 0x2091, 0x212F, 0x2147, 0xFF45, 0x1D41E, 0x1D452, 0x1D486, 0x1D4EE, 0x1D522,
    0x1D556, 0x1D58A, 0x1D5BE, 0x1D5F2, 0x1D626, 0x1D65A, 0x1D68E]),
  ('t', [0x1D57, 0x209C, 0xFF54, 0x1D42D, 0x1D461, 0x1D495, 0x1D4C9, 0x1D4FD, 0x1D531, 0x1D565,
    0x1D599, 0x1D5CD, 0x1D601, 0x1D635, 0x1D669, 0x1D69D])
]

/-- The letter that a character is a form of. -/
def plainLetter (c : Char) : Char :=
  ((letterForms.find? fun entry => entry.2.contains c.toNat).map Prod.fst).getD c

end DocLint.Literal
