import DocLint.Text.CaseRanges
import DocLint.Text.Word

/-!
# Lower case

`lower` maps a text to lower case by the full rules of Unicode: one character
at a time, with two exceptions. The capital I with a dot above becomes an `i`
and a combining dot, and a capital sigma becomes the final form where a word
ends: a letter with a case stands before it and none after it, whatever marks
lie between.
-/
namespace DocLint.Text

/-- Whether a run of `lowerRuns` holds a code point. -/
def runHolds (n : Nat) (run : Nat × Nat × Nat × Int) : Bool :=
  run.1 ≤ n && n ≤ run.2.1 && (n - run.1) % run.2.2.1 == 0

/-- The lower case of one character, looked at on its own. -/
def lowerChar (c : Char) : List Char :=
  if c.toNat < 128 then [c.toLower]
  else if c = '\u0130' then ['i', '\u0307']
  else match lowerRuns.find? (runHolds c.toNat) with
    | some run => [Char.ofNat (c.toNat + run.2.2.2).toNat]
    | none => [c]

def isCased (c : Char) : Bool := inRanges casedRanges c.toNat

/-- Whether the rule for the final sigma looks past a character. -/
def isCaseIgnorable (c : Char) : Bool := inRanges caseIgnorableRanges c.toNat

/-- Whether the nearest character that counts has a case. -/
def meetsCased (text : List Char) : Bool :=
  (text.dropWhile isCaseIgnorable).head?.any isCased

/-- Lower case of a text that follows `before`, given in reverse. -/
def lowerAfter (before : List Char) : List Char → List Char
  | [] => []
  | c :: rest =>
    (if c = '\u03A3' then
      if meetsCased before && !meetsCased rest then ['\u03C2'] else ['\u03C3']
    else lowerChar c) ++ lowerAfter (c :: before) rest

def lower (text : List Char) : List Char := lowerAfter [] text

/-- Whether two strings differ by case at most. -/
def sameIgnoringCase (a b : String) : Bool := lower a.toList == lower b.toList

end DocLint.Text
