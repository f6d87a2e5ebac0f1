/-!
# Blank characters and lines

The blank characters are the 29 code points that count as white space in a
document: the ASCII controls and separators, the space, and the Unicode space
and line separators. A zero-width space (U+200B) is not one of them.

Text is handled as a list of characters; `trim` and its two halves drop blank
characters from the ends and nothing else.

A text is cut into lines at line feeds and at nothing else, so a text with `n`
line feeds has `n + 1` lines, the last of which may be empty.

Main statements: `trimLeft_append_takeWhile` (trimming on the left cuts the text
in two and loses nothing), `length_lines` (the number of lines).
-/
namespace DocLint.Text

def isBlank (c : Char) : Bool :=
  let n := c.toNat
  (9 ≤ n && n ≤ 13) || (0x1C ≤ n && n ≤ 0x20) || n == 0x85 || n == 0xA0 || n == 0x1680 ||
    (0x2000 ≤ n && n ≤ 0x200A) || n == 0x2028 || n == 0x2029 || n == 0x202F || n == 0x205F ||
    n == 0x3000

def trimLeft (text : List Char) : List Char := text.dropWhile isBlank

def trimRight (text : List Char) : List Char := (text.reverse.dropWhile isBlank).reverse

def trim (text : List Char) : List Char := trimRight (trimLeft text)

/-- Whether a text holds blank characters only. The empty text does. -/
def isBlankText (text : List Char) : Bool := text.all isBlank

/-- The number of blank characters that a text starts with. -/
def indent (text : List Char) : Nat := (text.takeWhile isBlank).length

/-- `trim` on strings. -/
def trimString (s : String) : String := String.ofList (trim s.toList)

/-- The lines of a text. There is always at least one. -/
def lines : List Char → List (List Char)
  | [] => [[]]
  | c :: rest => if c = '\n' then [] :: lines rest else (lines rest).modifyHead (c :: ·)

/-- Texts joined with a separator between each two. -/
def joinWith (separator : List Char) (texts : List (List Char)) : List Char :=
  separator.intercalate texts

/-! ## Small facts -/

@[simp] theorem trimLeft_nil : trimLeft [] = [] := rfl

@[simp] theorem trimRight_nil : trimRight [] = [] := rfl

@[simp] theorem trim_nil : trim [] = [] := rfl

theorem trimLeft_append_takeWhile (text : List Char) :
    text.takeWhile isBlank ++ trimLeft text = text :=
  List.takeWhile_append_dropWhile

theorem lines_ne_nil (text : List Char) : lines text ≠ [] := by
  induction text with
  | nil => simp [lines]
  | cons c rest ih =>
    simp only [lines]
    split
    · simp
    · cases h : lines rest with
      | nil => exact absurd h ih
      | cons l ls => simp

theorem length_lines (text : List Char) : (lines text).length = text.count '\n' + 1 := by
  induction text with
  | nil => rfl
  | cons c rest ih =>
    simp only [lines]
    split
    · next h => subst h; simp [ih]
    · next h => simp [ih, h]

end DocLint.Text
