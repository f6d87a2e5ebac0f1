import DocLint.Text.Blank
import DocLint.Text.Word
import Mathlib.Data.List.DropRight

/-!
# Trimming, and cutting into lines

Trimming stops at a character that is not blank, from either end, and word
characters are not blank. Lines that hold no line feed come back from the text
that they are joined to.

Results:
* `not_isBlank_of_isWord`: no word character is blank.
* `trimLeft_append`, `trimRight_append_cons`: trimming stops.
* `trimLeft_trimRight`, `trim_trim`: trimming both ends, in either order and again.
* `mem_trim`: trimming drops blank characters only.
* `exists_append_trim`, `isBlank_head_trim`, `isBlank_getLast_trim`: what trimming leaves.
* `lines_joinWith`: the lines of joined lines.
-/
namespace DocLint.Text

variable {c : Char} {text before after : List Char}

/-! ## Blank characters and word characters -/

/-- The code points of the blank characters. -/
def blankCodes : List Nat :=
  List.range' 9 5 ++ List.range' 0x1C 5 ++ [0x85, 0xA0, 0x1680] ++ List.range' 0x2000 11 ++
    [0x2028, 0x2029, 0x202F, 0x205F, 0x3000]

theorem toNat_mem_blankCodes (h : isBlank c = true) : c.toNat ∈ blankCodes := by
  simp only [isBlank, Bool.or_eq_true, Bool.and_eq_true, decide_eq_true_eq, beq_iff_eq] at h
  simp only [blankCodes, List.mem_append, List.mem_range'_1, List.mem_cons, List.not_mem_nil,
    or_false]
  omega

theorem not_isWord_of_mem_blankCodes : ∀ n ∈ blankCodes, isWord (Char.ofNat n) = false := by
  decide +kernel

theorem not_isBlank_of_isWord (h : isWord c = true) : isBlank c = false := by
  by_contra hblank
  rw [Bool.not_eq_false] at hblank
  have hword := not_isWord_of_mem_blankCodes _ (toNat_mem_blankCodes hblank)
  rw [Char.ofNat_toNat, h] at hword
  cases hword

theorem not_isWord_of_isBlank (h : isBlank c = true) : isWord c = false := by
  cases hword : isWord c with
  | false => rfl
  | true => rw [not_isBlank_of_isWord hword] at h; cases h

/-! ## Trimming -/

theorem trimLeft_cons (h : isBlank c = false) : trimLeft (c :: text) = c :: text := by
  rw [trimLeft, List.dropWhile_cons_of_neg (by simp [h])]

section

variable {α : Type} {p : α → Bool} {before after : List α}

theorem takeWhile_append_stop (h : ∀ c ∈ before, p c = true)
    (hstop : ∀ c ∈ after.head?, p c = false) : (before ++ after).takeWhile p = before := by
  rw [List.takeWhile_append_of_pos h]
  cases after with
  | nil => exact List.append_nil before
  | cons c after =>
    rw [List.takeWhile_cons_of_neg (by simp [hstop c rfl]), List.append_nil]

theorem dropWhile_append_stop (h : ∀ c ∈ before, p c = true)
    (hstop : ∀ c ∈ after.head?, p c = false) : (before ++ after).dropWhile p = after := by
  rw [List.dropWhile_append_of_pos h]
  cases after with
  | nil => rfl
  | cons c after => exact List.dropWhile_cons_of_neg (by simp [hstop c rfl])

end

theorem trimLeft_cons_blank (h : isBlank c = true) : trimLeft (c :: text) = trimLeft text :=
  List.dropWhile_cons_of_pos h

theorem trimLeft_append (h : ∀ c ∈ before, isBlank c = true) :
    trimLeft (before ++ text) = trimLeft text := List.dropWhile_append_of_pos h

/-- Trimming on the right stops at a character that is not blank. -/
theorem trimRight_append_cons (h : isBlank c = false) :
    trimRight (before ++ c :: after) = before ++ c :: trimRight after := by
  unfold trimRight
  rw [List.reverse_append, List.reverse_cons, List.append_assoc, List.dropWhile_append]
  split
  · next hempty =>
    rw [List.isEmpty_iff.1 hempty]
    simp [h]
  · simp

theorem trimRight_cons (h : isBlank c = false) : trimRight (c :: text) = c :: trimRight text :=
  (trimRight_append_cons h : trimRight ([] ++ c :: text) = _)

/-- Trimming on the right does not reach before a text that holds anything. -/
theorem trimRight_append (h : c ∈ text) (hc : isBlank c = false) :
    trimRight (before ++ text) = before ++ trimRight text := by
  obtain ⟨start, rest, rfl⟩ := List.append_of_mem h
  rw [← List.append_assoc, trimRight_append_cons hc, trimRight_append_cons hc, List.append_assoc]

theorem trimRight_of_blank (h : ∀ c ∈ text, isBlank c = true) : trimRight text = [] := by
  rw [trimRight, List.reverse_eq_nil_iff, List.dropWhile_eq_nil_iff]
  exact fun c hc => h c (List.mem_reverse.1 hc)

theorem trimRight_trimRight (text : List Char) : trimRight (trimRight text) = trimRight text := by
  rw [trimRight, trimRight, List.reverse_reverse, List.dropWhile_idempotent]

theorem trimRight_isPrefix (text : List Char) : trimRight text <+: text := by
  rw [trimRight, ← List.reverse_suffix, List.reverse_reverse]
  exact List.dropWhile_suffix _

/-- Trimming at both ends, if the first character is not blank. -/
theorem trim_cons (h : isBlank c = false) : trim (c :: text) = c :: trimRight text := by
  rw [trim, trimLeft_cons h, trimRight_cons h]

theorem trim_cons_blank (h : isBlank c = true) : trim (c :: text) = trim text := by
  rw [trim, trimLeft_cons_blank h, trim]

/-- A text is blank, or it has a first character that is not. -/
theorem forall_isBlank_or_exists (text : List Char) : (∀ c ∈ text, isBlank c = true) ∨
    ∃ before c after, text = before ++ c :: after ∧ (∀ d ∈ before, isBlank d = true) ∧
      isBlank c = false := by
  cases hrest : trimLeft text with
  | nil => exact .inl (List.dropWhile_eq_nil_iff.1 hrest)
  | cons c after =>
    refine .inr ⟨text.takeWhile isBlank, c, after, ?_, fun d => List.mem_takeWhile_imp, ?_⟩
    · rw [← hrest, trimLeft_append_takeWhile]
    · have hhead := List.head?_dropWhile_not isBlank text
      rw [← trimLeft, hrest] at hhead
      exact Bool.eq_false_iff.2 (by simpa using hhead)

/-- It does not matter which end is trimmed first. -/
theorem trimLeft_trimRight (text : List Char) : trimLeft (trimRight text) = trim text := by
  rcases forall_isBlank_or_exists text with hblank | ⟨before, c, after, rfl, hbefore, hc⟩
  · have hnil : trimLeft text = [] := List.dropWhile_eq_nil_iff.2 hblank
    rw [trimRight_of_blank hblank, trim, hnil]
    rfl
  · rw [trimRight_append_cons hc, trimLeft_append hbefore, trimLeft_cons hc, trim,
      trimLeft_append hbefore, trimLeft_cons hc, trimRight_cons hc]

@[simp] theorem trim_trimLeft (text : List Char) : trim (trimLeft text) = trim text := by
  rw [trim, trimLeft, trimLeft, List.dropWhile_idempotent]
  rfl

@[simp] theorem trim_trimRight (text : List Char) : trim (trimRight text) = trim text := by
  rw [trim, trimLeft_trimRight, trim, trimRight_trimRight]

@[simp] theorem trim_trim (text : List Char) : trim (trim text) = trim text :=
  (trim_trimRight (trimLeft text)).trans (trim_trimLeft text)

/-- Dropping from the indentation changes nothing that trimming leaves. -/
theorem trim_drop {n : Nat} (h : n ≤ indent text) : trim (text.drop n) = trim text := by
  have hblank : ∀ c ∈ (text.takeWhile isBlank).drop n, isBlank c = true := fun c hc =>
    List.mem_takeWhile_imp (List.mem_of_mem_drop hc)
  have hdrop : text.drop n = (text.takeWhile isBlank).drop n ++ trimLeft text := by
    rw [← List.drop_append_of_le_length h, trimLeft_append_takeWhile]
  rw [hdrop, trim, trimLeft_append hblank, ← trim, trim_trimLeft]

theorem mem_dropWhile {p : Char → Bool} (h : c ∈ text) (hp : p c = false) :
    c ∈ text.dropWhile p := by
  rw [← List.takeWhile_append_dropWhile (p := p) (l := text), List.mem_append] at h
  rcases h with h | h
  · rw [List.mem_takeWhile_imp h] at hp
    cases hp
  · exact h

theorem mem_trimRight (h : c ∈ text) (hc : isBlank c = false) : c ∈ trimRight text :=
  List.mem_reverse.2 (mem_dropWhile (List.mem_reverse.2 h) hc)

theorem mem_trim (h : c ∈ text) (hc : isBlank c = false) : c ∈ trim text :=
  mem_trimRight (mem_dropWhile h hc) hc

/-- What trimming drops stands around what it leaves. -/
theorem exists_append_trim (text : List Char) : ∃ before after,
    text = before ++ trim text ++ after ∧ (∀ c ∈ before, isBlank c = true) ∧
      ∀ c ∈ after, isBlank c = true := by
  refine ⟨text.takeWhile isBlank, (trimLeft text).rtakeWhile isBlank, ?_,
    fun c => List.mem_takeWhile_imp, fun c => List.mem_rtakeWhile_imp⟩
  calc text = text.takeWhile isBlank ++ trimLeft text := (trimLeft_append_takeWhile text).symm
    _ = text.takeWhile isBlank ++ (trim text ++ (trimLeft text).rtakeWhile isBlank) := by
      rw [show trim text = (trimLeft text).rdropWhile isBlank from rfl,
        List.rdropWhile_append_rtakeWhile]
    _ = _ := (List.append_assoc ..).symm

theorem isBlank_head_trim (hne : trim text ≠ []) : isBlank ((trim text).head hne) = false := by
  have hhead := List.head?_dropWhile_not isBlank (trimRight text)
  rw [← trimLeft, trimLeft_trimRight, List.head?_eq_some_head hne] at hhead
  simpa using hhead

theorem isBlank_getLast_trim (hne : trim text ≠ []) : isBlank ((trim text).getLast hne) = false :=
  Bool.eq_false_iff.2 (List.rdropWhile_last_not isBlank (trimLeft text) hne)

theorem trim_eq_nil_iff : trim text = [] ↔ ∀ c ∈ text, isBlank c = true := by
  constructor
  · intro h c hc
    by_contra hblank
    rw [Bool.not_eq_true] at hblank
    exact List.not_mem_nil (h ▸ mem_trim hc hblank)
  · intro h
    have hnil : trimLeft text = [] := List.dropWhile_eq_nil_iff.2 h
    rw [trim, hnil, trimRight_nil]

theorem isBlankText_eq_isEmpty_trim (text : List Char) :
    isBlankText text = (trim text).isEmpty := by
  rw [Bool.eq_iff_iff, List.isEmpty_iff, trim_eq_nil_iff, isBlankText, List.all_eq_true]

theorem trimRight_eq_nil_iff : trimRight text = [] ↔ isBlankText text = true := by
  constructor
  · intro h
    by_contra hvisible
    rw [Bool.not_eq_true] at hvisible
    obtain ⟨c, hc, hblank⟩ := List.all_eq_false.1 hvisible
    have hmem := mem_trimRight hc (by simpa using hblank)
    rw [h] at hmem
    cases hmem
  · intro h
    exact trimRight_of_blank (List.all_eq_true.1 h)

theorem isBlankText_of_mem (h : c ∈ text) (hc : isBlank c = false) : isBlankText text = false := by
  rw [isBlankText, List.all_eq_false]
  exact ⟨c, h, by simp [hc]⟩

/-! ## Lines -/

theorem joinWith_cons_cons (separator l l' : List Char) (ls : List (List Char)) :
    joinWith separator (l :: l' :: ls) = l ++ (separator ++ joinWith separator (l' :: ls)) := by
  simp [joinWith, List.intercalate]

theorem lines_append_lineFeed (h : '\n' ∉ before) :
    lines (before ++ '\n' :: after) = before :: lines after := by
  induction before with
  | nil => simp [lines]
  | cons c before ih =>
    rw [List.mem_cons, not_or] at h
    rw [List.cons_append, lines, if_neg (Ne.symm h.1), ih h.2]
    rfl

theorem lines_of_no_lineFeed (h : '\n' ∉ text) : lines text = [text] := by
  induction text with
  | nil => rfl
  | cons c text ih =>
    rw [List.mem_cons, not_or] at h
    rw [lines, if_neg (Ne.symm h.1), ih h.2]
    rfl

theorem lines_joinWith {ls : List (List Char)} (hne : ls ≠ []) (h : ∀ l ∈ ls, '\n' ∉ l) :
    lines (joinWith ['\n'] ls) = ls := by
  induction ls with
  | nil => exact absurd rfl hne
  | cons l ls ih =>
    have hl := h l (by simp)
    cases ls with
    | nil => simpa [joinWith] using lines_of_no_lineFeed hl
    | cons l' ls =>
      have ih' := ih (by simp) fun l hl => h l (by simp [hl])
      rw [joinWith_cons_cons, List.singleton_append, lines_append_lineFeed hl, ih']

theorem mem_joinWith {separator : List Char} {ls : List (List Char)}
    (h : c ∈ joinWith separator ls) : c ∈ separator ∨ ∃ l ∈ ls, c ∈ l := by
  induction ls with
  | nil => simp [joinWith] at h
  | cons l ls ih =>
    cases ls with
    | nil => exact .inr ⟨l, by simp, by simpa [joinWith] using h⟩
    | cons l' ls =>
      rw [joinWith_cons_cons, List.mem_append, List.mem_append] at h
      rcases h with h | h | h
      · exact .inr ⟨l, by simp, h⟩
      · exact .inl h
      · exact (ih h).imp_right fun ⟨k, hk, hc⟩ => ⟨k, by simp [hk], hc⟩

end DocLint.Text
