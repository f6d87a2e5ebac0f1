/-!
# Escapes in a quoted literal

`unescape` turns the text between the quotes of a literal into the text that
it stands for. A backslash before a line feed removes both, one to three octal
digits and the hexadecimal forms with two, four and eight digits give a code
point, a name in braces gives the character with that name, and a backslash
before a character without a meaning stays. So does one at the end.

Which names there are is said by a `Lexicon`. A code point that is half of a
surrogate pair is no character here, so the lexicon says what stands for it as
well. What is proved of reading holds of every lexicon.

Main statement: `unescape_of_no_backslash` (a text without backslashes stands
for itself).
-/
namespace DocLint.Literal

/-- What reading a literal takes from outside the text. -/
structure Lexicon where
  /-- The character with a name. -/
  named? : List Char → Option Char
  /-- What stands for a code point that is half of a surrogate pair. -/
  half : Nat → Char
  /-- The words for why a text is no literal. -/
  refusal : String → String

def isOctal (c : Char) : Bool := '0' ≤ c && c ≤ '7'

def isHex (c : Char) : Bool :=
  c.isDigit || ('a' ≤ c && c ≤ 'f') || ('A' ≤ c && c ≤ 'F')

/-- The value of a digit in any base up to sixteen. -/
def digitValue (c : Char) : Nat :=
  if c.isDigit then c.toNat - 48 else c.toLower.toNat - 87

/-- The number that digits stand for in a base. -/
def digitsValue (base : Nat) (digits : List Char) : Nat :=
  digits.foldl (fun n c => base * n + digitValue c) 0

def startsHex (width : Nat) (text : List Char) : Bool :=
  (text.take width).length == width && (text.take width).all isHex

/-- Whether a text can be the name of a character: ASCII letters, digits, blanks
and hyphens. -/
def isCharName (name : List Char) : Bool :=
  !name.isEmpty && name.all fun c => c.isAlphanum || c == ' ' || c == '-'

/-- The text between the braces that a text starts with. -/
def braced? : List Char → Option (List Char)
  | '\x7b' :: rest =>
    if rest.contains '\x7d' then some (rest.takeWhile (· != '\x7d')) else none
  | _ => none

namespace Lexicon

variable (lexicon : Lexicon)

def charOf (n : Nat) : Char := if n.isValidChar then Char.ofNat n else lexicon.half n

/-- A hexadecimal form with `width` digits: the character, and the number of
digits. -/
def hexEscape (width : Nat) (rest : List Char) : Option (List Char × Nat) :=
  let value := digitsValue 16 (rest.take width)
  if startsHex width rest ∧ value < 0x110000 then some ([lexicon.charOf value], width) else none

/-- A name in braces: the character, and the number of characters that it takes. -/
def namedEscape (rest : List Char) : Option (List Char × Nat) := do
  let name ← braced? rest
  if isCharName name then return ([← lexicon.named? name], name.length + 2) else none

end Lexicon

variable (lexicon : Lexicon)

/-- What a backslash before `c` stands for, and how many characters after `c`
belong to it. -/
def escape (c : Char) (rest : List Char) : Option (List Char × Nat) :=
  if c = '\n' then some ([], 0)
  else if c = '\\' || c = '\'' || c = '"' then some ([c], 0)
  else if c = 'a' then some (['\x07'], 0)
  else if c = 'b' then some (['\x08'], 0)
  else if c = 'f' then some (['\x0c'], 0)
  else if c = 'n' then some (['\n'], 0)
  else if c = 'r' then some (['\r'], 0)
  else if c = 't' then some (['\t'], 0)
  else if c = 'v' then some (['\x0b'], 0)
  else if c = 'x' then lexicon.hexEscape 2 rest
  else if c = 'u' then lexicon.hexEscape 4 rest
  else if c = 'U' then lexicon.hexEscape 8 rest
  else if c = 'N' then lexicon.namedEscape rest
  else if isOctal c then
    let more := (rest.take 2).takeWhile isOctal
    some ([lexicon.charOf (digitsValue 8 (c :: more))], more.length)
  else some (['\\', c], 0)

/-- The text that the inside of a quoted literal stands for. -/
def unescape (body : List Char) : Option (List Char) :=
  match body with
  | [] => some []
  | '\\' :: c :: rest => do
    let (shown, count) ← escape lexicon c rest
    return shown ++ (← unescape (rest.drop count))
  | c :: rest => do return c :: (← unescape rest)
termination_by body.length
decreasing_by all_goals simp; try omega

/-- Whether the inside of a byte literal is well formed: its characters are
ASCII, and each hexadecimal form has its two digits. -/
def bytesWellFormed : List Char → Bool
  | [] => true
  | '\\' :: 'x' :: rest => startsHex 2 rest && bytesWellFormed rest
  | '\\' :: c :: rest => decide (c.toNat < 128) && bytesWellFormed rest
  | c :: rest => decide (c.toNat < 128) && bytesWellFormed rest

/-! ## Small facts -/

theorem unescape_of_no_backslash (body : List Char) (h : '\\' ∉ body) :
    unescape lexicon body = some body := by
  induction body with
  | nil => simp [unescape]
  | cons c rest ih =>
    have hc : c ≠ '\\' := fun hc => h (hc ▸ List.mem_cons_self)
    have hr : '\\' ∉ rest := fun hr => h (List.mem_cons_of_mem c hr)
    rw [unescape.eq_def]
    split <;> simp_all

end DocLint.Literal
