import DocLint.Violation

/-!
# Templates that take texts only

A template in which every percent sign starts a plain slot for a text is filled
by any arguments, as long as there are as many of them as slots. The templates
of all checks are of this kind.

Results:
* `exists_fillPieces`: filling such a template with the right number of
  arguments does not fail.
* `Check.exists_messageOf`: every check has a message for its arguments.
-/
namespace DocLint

namespace Text

/-- The number of slots of a template, if all of them are plain slots for texts. -/
def textSlots? : List Char → Option Nat
  | [] => some 0
  | '%' :: 's' :: rest => (textSlots? rest).map (· + 1)
  | '%' :: _ => none
  | _ :: rest => textSlots? rest

theorem ofRest_textSlot (length : Nat) (rest : List Char) :
    Piece.ofRest length ('%' :: 's' :: rest) =
      .slot ⟨false, 0, none⟩ 's' (length - rest.length - 1) :: Piece.ofRest length rest := by
  rw [Piece.ofRest.eq_def]
  simp [Layout.read, readCount, readPrecision, isFlag, isSizeMark, bind, Except.bind, pure,
    Except.pure]

theorem ofRest_char (length : Nat) {c : Char} (rest : List Char) (h : c ≠ '%') :
    Piece.ofRest length (c :: rest) = .char c :: Piece.ofRest length rest := by
  rw [Piece.ofRest.eq_def]
  split <;> simp_all

theorem fill_textSlot (position : Nat) (text : List Char) :
    Layout.fill ⟨false, 0, none⟩ 's' position text = .ok text := by
  simp [Layout.fill, formText, Layout.pad, widestText, bind, Except.bind]

theorem exists_fillPieces (length : Nat) {text : List Char} {args : List String}
    (h : textSlots? text = some args.length) :
    ∃ filled, fillPieces (Piece.ofRest length text) args = .ok filled := by
  induction text using textSlots?.induct generalizing args with
  | case1 =>
    obtain rfl : args = [] := by simpa [textSlots?, eq_comm] using h
    exact ⟨[], by simp [Piece.ofRest, fillPieces]⟩
  | case2 rest ih =>
    cases args with
    | nil => simp [textSlots?] at h
    | cons arg args =>
      obtain ⟨filled, hfilled⟩ := ih
        (show textSlots? rest = some args.length by simpa [textSlots?] using h)
      refine ⟨arg.toList ++ filled, ?_⟩
      rw [ofRest_textSlot, fillPieces, fill_textSlot, hfilled]
      rfl
  | case3 => simp [textSlots?] at h
  | case4 c rest hslot hpercent ih =>
    have hc : c ≠ '%' := fun hc => hpercent hc
    obtain ⟨filled, hfilled⟩ := ih
      (show textSlots? rest = some args.length by simpa [textSlots?, hc] using h)
    refine ⟨c :: filled, ?_⟩
    rw [ofRest_char length rest hc, fillPieces, hfilled]
    rfl

end Text

namespace Check

def slots : Check → Nat
  | .paramNameMismatch | .paramNameCaseMismatch => 3
  | .paramCommentMissing => 2
  | .endBlankLineMissing | .endTooManyBlankLines | .commentUnreadable | .paramNameMissing
  | .paramExtra | .paramTagMissing | .paramCommentNotCapitalized => 1
  | .commentMissing | .commentWrongStyle | .commentEmpty | .shortMissing | .spacingBeforeShort
  | .spacingBetween | .spacingBeforeTags | .returnMissing | .returnValueMissing
  | .commentNotCapitalized => 0

theorem textSlots?_template (check : Check) :
    Text.textSlots? check.template.toList = some check.slots := by
  -- The characters of the literal are put in first: evaluating `toList` on it is slow.
  cases check <;> exact (congrArg Text.textSlots? String.toList_ofList).trans rfl

/-- Every check has a message for the right number of arguments. -/
theorem exists_messageOf (check : Check) {args : List String} (h : args.length = check.slots) :
    ∃ message, Violation.messageOf check.template args = .ok message := by
  obtain ⟨filled, hfilled⟩ := Text.exists_fillPieces check.template.toList.length
    ((textSlots?_template check).trans (congrArg some h.symm))
  unfold Violation.messageOf
  split
  · exact ⟨_, rfl⟩
  · exact ⟨String.ofList filled, by simp only [Text.fill, Text.Piece.ofTemplate, hfilled]⟩

end Check

end DocLint
