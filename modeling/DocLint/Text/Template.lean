import DocLint.Fault
import DocLint.Text.Quoted

/-!
# Message templates

A template is a text with slots, and `fill` puts the next argument into each of
them. A slot starts with a percent sign, has perhaps a layout, and ends with a
character that is its form. Two percent signs side by side stand for one.

The layout is, in this order, some flags, a width, a point and a precision, and
a mark of size. Of the flags only `-` has a meaning for a text: it puts the text
to the left of its blanks. The mark of size has none.

The forms are `s` for the text itself, `r` for the text between quotes, `a` for
that in ASCII, and `c` for a text of one character. The forms for numbers are
known and yet fail, for all arguments are texts.

A template is first cut into its pieces (`Piece.ofTemplate`), and then the
pieces are filled from left to right, so that the first fault counts.
-/
namespace DocLint.Text

/-- How a slot shows its argument. -/
structure Layout where
  /-- The text stands to the left of the blanks that make up the width. -/
  left : Bool
  width : Nat
  /-- The most characters that are shown. -/
  precision : Option Nat
  deriving DecidableEq, Repr

inductive Piece
  | char (c : Char)
  | slot (layout : Layout) (form : Char) (position : Nat)
  /-- A slot that takes its width or its precision from an argument. -/
  | counted
  /-- A slot that cannot be read. It is the last piece. -/
  | broken (reason : TemplateFault)
  deriving DecidableEq, Repr

/-- Whether a character is a flag of a layout. -/
def isFlag (c : Char) : Bool := ['-', '+', ' ', '#', '0'].contains c

/-- Whether a character is a mark of size. -/
def isSizeMark (c : Char) : Bool := ['h', 'l', 'L'].contains c

/-- The number at the start of a text, which is zero if there are no digits,
and what follows it. A star in its place takes the number from an argument. -/
def readCount (most : Nat) (tooBig : TemplateFault) (text : List Char) :
    Except Piece (Nat × List Char) :=
  let digits := text.takeWhile Char.isDigit
  let count := digits.foldl (fun n c => 10 * n + (c.toNat - 48)) 0
  if text.head? = some '*' then .error .counted
  else if count > most then .error (.broken tooBig)
  else .ok (count, text.dropWhile Char.isDigit)

/-- The precision at the start of a text, if there is one, and what follows. -/
def readPrecision : List Char → Except Piece (Option Nat × List Char)
  | '.' :: rest => (readCount (Nat.pow 2 31 - 1) .precisionTooBig rest).map fun r => (some r.1, r.2)
  | text => .ok (none, text)

/-- The layout of a slot after its percent sign, and what follows. -/
def Layout.read (text : List Char) : Except Piece (Layout × List Char) := do
  if text.head? = some '(' then throw (.broken .named)
  else
    let flags := text.takeWhile isFlag
    let (width, rest) ← readCount (Nat.pow 2 63 - 1) .widthTooBig (text.dropWhile isFlag)
    let (precision, rest) ← readPrecision rest
    return ({ left := flags.contains '-', width, precision },
      if rest.head?.any isSizeMark then rest.tail else rest)

/-- The pieces of the end of a template that is `length` characters long. -/
def Piece.ofRest (length : Nat) (text : List Char) : List Piece :=
  match text with
  | [] => []
  | '%' :: '%' :: rest => .char '%' :: ofRest length rest
  | '%' :: rest =>
    match Layout.read rest with
    | .error piece => [piece]
    | .ok (_, []) => [.broken .incomplete]
    | .ok (layout, form :: after) =>
      if after.length < rest.length then
        .slot layout form (length - after.length - 1) :: ofRest length after
      else []
  | c :: rest => .char c :: ofRest length rest
termination_by text.length
decreasing_by all_goals simp; try omega

def Piece.ofTemplate (template : List Char) : List Piece := ofRest template.length template

/-- A character of a quoted text in ASCII. -/
def asciiChar (c : Char) : List Char := if c.toNat < 128 then [c] else escapeCode c

/-- What a form makes of a text. -/
def formText (form : Char) (position : Nat) (text : List Char) :
    Except TemplateFault (List Char) :=
  match form with
  | 's' => .ok text
  | 'r' => .ok (quoteChars text)
  | 'a' => .ok ((quoteChars text).flatMap asciiChar)
  | 'c' => if text.length = 1 then .ok text else .error .notOneCharacter
  | 'd' | 'i' | 'u' => .error (.notNumber form)
  | 'o' | 'x' | 'X' => .error (.notWhole form)
  | 'e' | 'E' | 'f' | 'F' | 'g' | 'G' => .error .notFractional
  | _ => .error (.unknownForm form position)

/-- The widest text there is room for. -/
def widestText : Nat := Nat.pow 2 40

/-- The text of a slot with blanks up to its width. -/
def Layout.pad (layout : Layout) (text : List Char) : Except TemplateFault (List Char) :=
  let blanks := List.replicate (layout.width - text.length) ' '
  if layout.width > widestText then .error .outOfMemory
  else .ok (if layout.left then text ++ blanks else blanks ++ text)

/-- A slot filled with a text. The precision cuts every text but one character. -/
def Layout.fill (layout : Layout) (form : Char) (position : Nat) (text : List Char) :
    Except TemplateFault (List Char) := do
  let shown ← formText form position text
  layout.pad (if form = 'c' then shown else shown.take (layout.precision.getD shown.length))

/-- Fills the slots among pieces. -/
def fillPieces : List Piece → List String → Except TemplateFault (List Char)
  | [], [] => .ok []
  | [], _ :: _ => .error .unusedArgument
  | .char c :: rest, args => do return c :: (← fillPieces rest args)
  | .broken reason :: _, _ => .error reason
  | .counted :: _, [] => .error .missingArgument
  | .counted :: _, _ :: _ => .error .countFromText
  | .slot .. :: _, [] => .error .missingArgument
  | .slot layout form position :: rest, arg :: args => do
    let shown ← layout.fill form position arg.toList
    return shown ++ (← fillPieces rest args)

/-- The template with its slots filled, in order. -/
def fill (template : String) (args : List String) : Except Fault String :=
  match fillPieces (Piece.ofTemplate template.toList) args with
  | .ok text => .ok (String.ofList text)
  | .error reason => .error (.template reason)

end DocLint.Text
