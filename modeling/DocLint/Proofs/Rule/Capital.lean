import DocLint.Proofs.Comment.Reindent
import DocLint.Proofs.Rule.Spacing

/-!
# Which descriptions are found to start with a small letter

The check looks at the very first character of the description as it was
dedented. The first line of a docstring is trimmed, but the lines below lose only
the margin that they share. So if the description starts below the first line, and
further to the right than some other line does, then what the check looks at is a
blank, and a small letter behind it goes unnoticed.

Results:
* `margin_eq_indent_iff`: which lines start at the margin.
* `startsUpper_dedent_iff`: what the check says about a dedented line.
* `Subject.checkCapital_verdict`: the verdict on a description, by the lines of the
  text that the docstring stands for.
-/
namespace DocLint

open Text

variable {text before after line : List Char} {ls rest : List (List Char)} {ch : Char} {i : Nat}

/-! ## The first character that is not blank -/

namespace Text

/-- The first character of a text that is not blank. -/
def firstVisible (text : List Char) : Option Char := text.find? fun c => !isBlank c

theorem firstVisible_cons (hch : isBlank ch = false) : firstVisible (ch :: after) = some ch :=
  List.find?_cons_of_pos (by simp [hch])

theorem firstVisible_append_cons (hbefore : ∀ c ∈ before, isBlank c = true)
    (hch : isBlank ch = false) : firstVisible (before ++ ch :: after) = some ch := by
  have hnone : before.find? (fun c => !isBlank c) = none := by
    rw [List.find?_eq_none]
    intro c hc
    simp [hbefore c hc]
  rw [firstVisible, List.find?_append, hnone, Option.none_or]
  exact firstVisible_cons hch

theorem exists_of_firstVisible (h : firstVisible text = some ch) : ∃ before after,
    text = before ++ ch :: after ∧ (∀ c ∈ before, isBlank c = true) ∧ isBlank ch = false := by
  obtain ⟨hch, before, after, htext, hbefore⟩ := List.find?_eq_some_iff_append.1 h
  refine ⟨before, after, htext, ?_, by simpa using hch⟩
  intro c hc
  simpa using hbefore c hc

theorem firstVisible_of_not_isBlankText (h : isBlankText text = false) :
    ∃ ch, firstVisible text = some ch := by
  rcases forall_isBlank_or_exists text with hblank | ⟨before, ch, after, rfl, hbefore, hch⟩
  · rw [isBlankText, List.all_eq_true.2 hblank] at h
    cases h
  · exact ⟨ch, firstVisible_append_cons hbefore hch⟩

theorem isBlank_of_isAsciiLower (h : isAsciiLower ch = true) : isBlank ch = false := by
  apply not_isBlank_of_isWord
  apply isWord_of_isAsciiLetter
  change (ch.isUpper || ch.isLower) = true
  rw [show ch.isLower = true from h, Bool.or_true]

theorem indent_append_cons (hbefore : ∀ c ∈ before, isBlank c = true) (hch : isBlank ch = false) :
    indent (before ++ ch :: after) = before.length := by
  rw [indent, takeWhile_append_stop hbefore]
  intro c hc
  cases hc
  exact hch

theorem indent_trimRight (h : isBlankText line = false) :
    indent (trimRight line) = indent line := by
  obtain ⟨ch, hvisible⟩ := firstVisible_of_not_isBlankText h
  obtain ⟨before, after, rfl, hbefore, hch⟩ := exists_of_firstVisible hvisible
  rw [trimRight_append_cons hch, indent_append_cons hbefore hch, indent_append_cons hbefore hch]

/-- Without all of its indentation gone, a line starts with a blank. -/
theorem startsUpper_drop_iff {n : Nat} (hbefore : ∀ c ∈ before, isBlank c = true)
    (hn : n ≤ before.length) :
    startsUpper ((before ++ ch :: after).drop n) = false ↔
      isAsciiLower ch = true ∧ before.length ≤ n := by
  by_cases heq : n = before.length
  · rw [heq, List.drop_left]
    simp [startsUpper]
  · have hlt : n < before.length := by omega
    have hhead : ((before ++ ch :: after).drop n).head? = some before[n] := by
      rw [List.head?_drop, List.getElem?_append_left hlt, List.getElem?_eq_getElem hlt]
    have hnot : isAsciiLower before[n] = false := by
      by_contra hlower
      have := isBlank_of_isAsciiLower (Bool.not_eq_false _ ▸ hlower)
      rw [hbefore _ (List.getElem_mem hlt)] at this
      cases this
    rw [startsUpper, hhead, Option.any_some, hnot]
    constructor
    · intro h
      cases h
    · intro h
      omega

end Text

/-! ## Lines at the margin -/

/-- A line starts at the margin if no other line starts before it. -/
theorem indent_le_margin_iff (hmem : line ∈ rest) (hne : line ≠ []) :
    indent line ≤ margin rest ↔ ∀ l ∈ rest, l ≠ [] → indent line ≤ indent l := by
  constructor
  · intro h l hl hne'
    exact Nat.le_trans h (margin_le_indent hl hne')
  · intro h
    obtain ⟨l, hl, hne', hindent⟩ := exists_indent_eq_margin ⟨line, hmem, hne⟩
    rw [← hindent]
    exact h l hl hne'

theorem indent_le_margin_trimRight_iff (hmem : line ∈ rest) (hline : isBlankText line = false) :
    indent line ≤ margin (rest.map trimRight) ↔
      ∀ l ∈ rest, isBlankText l = false → indent line ≤ indent l := by
  have hfilled : ∀ l, trimRight l ≠ [] ↔ isBlankText l = false := by
    intro l
    rw [ne_eq, trimRight_eq_nil_iff, Bool.not_eq_true]
  rw [← indent_trimRight hline,
    indent_le_margin_iff (List.mem_map_of_mem hmem) ((hfilled line).2 hline)]
  constructor
  · intro h l hl hvisible
    rw [← indent_trimRight hvisible]
    exact h _ (List.mem_map_of_mem hl) ((hfilled l).2 hvisible)
  · intro h l hl hne
    obtain ⟨l, hl', rfl⟩ := List.mem_map.1 hl
    rw [indent_trimRight ((hfilled l).1 hne)]
    exact h l hl' ((hfilled l).1 hne)

/-- Whether dedenting takes all blanks from the start of a line. It does for the
first line, and for those that start no further to the right than any other. -/
def IsFlush (ls : List (List Char)) (i : Nat) : Prop :=
  i = 0 ∨ ∀ l ∈ ls.tail, isBlankText l = false → indent (ls.getD i []) ≤ indent l

/-- What the check says about a dedented line, by the line as it was before. -/
theorem startsUpper_dedent_iff (hi : ls[i]? = some line) (hvisible : firstVisible line = some ch) :
    ∃ dedented, (dedent ls)[i]? = some dedented ∧ firstVisible dedented = some ch ∧
      (startsUpper dedented = false ↔ isAsciiLower ch = true ∧ IsFlush ls i) := by
  obtain ⟨before, after, rfl, hbefore, hch⟩ := exists_of_firstVisible hvisible
  cases ls with
  | nil => cases hi
  | cons first rest =>
    cases i with
    | zero =>
      obtain rfl := Option.some.inj hi
      refine ⟨ch :: trimRight after, ?_, firstVisible_cons hch, ?_⟩
      · show some (trimLeft (trimRight (before ++ ch :: after))) = _
        rw [trimRight_append_cons hch, trimLeft_append hbefore, trimLeft_cons hch]
      · simp [startsUpper, IsFlush]
    | succ i =>
      rw [List.getElem?_cons_succ] at hi
      have hmem := List.mem_of_getElem? hi
      have hindent : ∀ after, indent (before ++ ch :: after) = before.length := fun after =>
        indent_append_cons hbefore hch
      have hmargin : margin (rest.map trimRight) ≤ before.length := by
        rw [← hindent (trimRight after), ← trimRight_append_cons hch]
        apply margin_le_indent (List.mem_map_of_mem hmem)
        simp [trimRight_append_cons hch]
      refine ⟨(before ++ ch :: trimRight after).drop (margin (rest.map trimRight)), ?_, ?_, ?_⟩
      · show ((rest.map trimRight).map _)[i]? = _
        rw [List.getElem?_map, List.getElem?_map, hi, Option.map_some, Option.map_some,
          trimRight_append_cons hch]
      · rw [List.drop_append_of_le_length hmargin]
        apply firstVisible_append_cons _ hch
        intro c hc
        exact hbefore c (List.mem_of_mem_drop hc)
      · have hline : isBlankText (before ++ ch :: after) = false :=
          isBlankText_of_mem (List.mem_append_right _ (List.mem_cons_self ..)) hch
        have hflush : IsFlush (first :: rest) (i + 1) ↔
            before.length ≤ margin (rest.map trimRight) := by
          rw [← hindent after, indent_le_margin_trimRight_iff hmem hline, IsFlush,
            List.getD_eq_getElem?_getD, List.getElem?_cons_succ, hi, Option.getD_some]
          exact or_iff_right (Nat.succ_ne_zero i)
        rw [startsUpper_drop_iff hbefore hmargin, hflush]

/-! ## The verdict -/

theorem exists_joinWith (first : List Char) (others : List (List Char)) :
    ∃ more, joinWith ['\n'] (first :: others) = first ++ more := by
  cases others with
  | nil => exact ⟨[], by simp [joinWith]⟩
  | cons other others => exact ⟨_, joinWith_cons_cons ..⟩

/-- A description starts with the first of the lines that holds anything. -/
theorem DocComment.exists_first_of_ofLines {params : List ParamTag}
    {returnTag : Option ReturnTag} {c : DocComment}
    (hc : DocComment.ofLines ls params returnTag = some c)
    (hcontent : isBlankText c.content.toList = false) :
    ∃ f first more, firstIn (!·) (ls.map List.isEmpty) 0 ls.length = some f ∧
      ls[f]? = some first ∧ first ≠ [] ∧ c.line = f ∧ c.content.toList = first ++ more := by
  rcases ofLines_cases hc with ⟨-, -, rfl⟩ | ⟨d, hcuts, rfl⟩
  · cases hcontent
  · obtain ⟨first, others, hbody, hne, -⟩ := hcuts.body_ends
    have hfirst := hcuts.firstIn_eq
    have hline : (ls.take (tagStart ls))[d.before]? = some first := by
      conv => lhs; rw [hcuts.lines_eq, hbody]
      rw [List.cons_append, List.getElem?_append_right (by simp), List.length_replicate,
        Nat.sub_self, List.getElem?_cons_zero]
    have hlt := (List.getElem?_eq_some_iff.1 hline).1
    rw [List.length_take] at hlt
    rw [List.length_take, Nat.min_eq_left (tagStart_le_length ls),
      firstIn_take (Nat.le_refl _)] at hfirst
    rw [List.getElem?_take_of_lt (by omega)] at hline
    obtain ⟨more, hmore⟩ := exists_joinWith first others
    refine ⟨d.before, first, more, ?_, hline, hne, rfl, ?_⟩
    · rw [firstIn_map]
      exact firstIn_extend hfirst (tagStart_le_length ls)
    · rw [← hmore, ← hbody]
      exact String.toList_ofList

/-- The verdict on the first letter of a description that is not blank. A small letter
is found if the first line of the description is flush with the others. If it is
indented further, nothing is found, whatever it starts with. -/
theorem Subject.checkCapital_verdict {lexicon : Literal.Lexicon} (u : Subject)
    (value : List Char) (c : DocComment)
    (hvalue : Literal.readText lexicon u.token.text = .ok value)
    (hread : docstringReader lexicon u.token.text = .ok u.reading) (hc : u.reading.comment = some c)
    (hcontent : isBlankText c.content.toList = false) :
    ∃ f ch, firstIn (!·) (blankLines (lines value)) 0 (lines value).length = some f ∧
      c.line = f ∧ firstVisible c.content.toList = some ch ∧
      firstVisible ((lines value).getD f []) = some ch ∧
      (isAsciiLower ch = true → IsFlush (lines value) f →
        u.checkCapital = .ok [u.violation { check := .commentNotCapitalized, line := c.line }]) ∧
      (isAsciiLower ch = false ∨ ¬IsFlush (lines value) f → u.checkCapital = .ok []) := by
  have hreading := hread
  rw [docstringReader_eq hvalue, Except.ok.injEq] at hreading
  have hcomment := hc
  rw [← hreading, Reader.readLines] at hcomment
  obtain ⟨f, first, more, hf, hfirst, hne, hline, htext⟩ :=
    DocComment.exists_first_of_ofLines hcomment hcontent
  rw [map_isEmpty_dedent, length_dedent] at hf
  obtain ⟨-, hlt, hfilled, -⟩ := firstIn_eq_some_iff.1 hf
  have hat : (lines value)[f]? = some (lines value)[f] := List.getElem?_eq_getElem hlt
  have hvisible : isBlankText (lines value)[f] = false := by
    rw [blankLines, List.getElem?_map, hat] at hfilled
    simpa using hfilled
  obtain ⟨ch, hch⟩ := firstVisible_of_not_isBlankText hvisible
  obtain ⟨dedented, hdedented, hstart, hupper⟩ := startsUpper_dedent_iff hat hch
  obtain rfl : first = dedented := Option.some.inj (hfirst.symm.trans hdedented)
  -- The check looks at the first character of the first line.
  have hsame : startsUpper c.content.toList = startsUpper first := by
    rw [startsUpper, startsUpper, htext, List.head?_append_of_ne_nil _ hne]
  have hverdict := u.checkCapital_findings hc
  rw [DocComment.capitalFindings, hsame] at hverdict
  refine ⟨f, ch, hf, hline, ?_, ?_, ?_, ?_⟩
  · rw [htext, firstVisible, List.find?_append]
    rw [firstVisible] at hstart
    rw [hstart, Option.some_or]
  · rw [List.getD_eq_getElem?_getD, hat, Option.getD_some]
    exact hch
  · intro hlower hflush
    rw [hverdict, hupper.2 ⟨hlower, hflush⟩]
    rfl
  · intro h
    have hfine : startsUpper first = true := by
      rw [← Bool.not_eq_false, hupper, not_and_or, Bool.not_eq_true]
      exact h
    rw [hverdict, hfine]
    rfl

/-- A function with a docstring of the given lines. -/
def quotedSubject (ls : List (List Char)) : Subject where
  tokens := ⟨[⟨.function, "def", 1, 0, {}⟩, ⟨.docComment, tripleQuoted ls, 2, 4, {}⟩]⟩
  functionIndex := 0
  commentIndex := 1
  token := ⟨.docComment, tripleQuoted ls, 2, 4, {}⟩
  reading := Reader.readLines {} (dedent ls)
  token_eq := rfl

theorem quotedSubject_read (lexicon : Literal.Lexicon) (ls : List (List Char)) (hne : ls ≠ [])
    (hplain : ls.all (fun l => l.all isPlain) = true) :
    Literal.readText lexicon (quotedSubject ls).token.text = .ok (joinWith ['\n'] ls) ∧
      docstringReader lexicon (quotedSubject ls).token.text = .ok (quotedSubject ls).reading ∧
      lines (joinWith ['\n'] ls) = ls := by
  have hall : ∀ l ∈ ls, ∀ c ∈ l, isPlain c = true := fun l hl =>
    List.all_eq_true.1 (List.all_eq_true.1 hplain l hl)
  have hlines : lines (joinWith ['\n'] ls) = ls :=
    lines_joinWith hne fun l hl => not_mem_of_isPlain (hall l hl) (by decide)
  have hvalue : Literal.readText lexicon (quotedSubject ls).token.text = .ok (joinWith ['\n'] ls) :=
    readText_triple hall
  refine ⟨hvalue, ?_, hlines⟩
  rw [docstringReader_eq hvalue, hlines]
  rfl

/-- A description that starts with a small letter, at the margin. -/
def smallStart : List (List Char) := [[], "    lower.".toList, [], "    @return: X.".toList]

/-- The same, but indented further than the tag. -/
def indentedStart : List (List Char) := [[], "      lower.".toList, [], "    @return: X.".toList]

/-- At the margin the small letter is found. -/
theorem smallStart_found : (quotedSubject smallStart).checkCapital =
    .ok [(quotedSubject smallStart).violation { check := .commentNotCapitalized, line := 1 }] := by
  obtain ⟨hvalue, hread, hlines⟩ := quotedSubject_read .small smallStart (by decide) (by decide)
  have hsome : (quotedSubject smallStart).reading.comment.any
      (fun c => !isBlankText c.content.toList) = true := by decide
  obtain ⟨c, hc, hcontent⟩ := (Option.any_eq_true ..).1 hsome
  obtain ⟨f, ch, hf, hline, -, hch, hfound, -⟩ :=
    (quotedSubject smallStart).checkCapital_verdict _ c hvalue hread hc (by simpa using hcontent)
  rw [hlines] at hf hch hfound
  obtain rfl : 1 = f := Option.some.inj (Eq.trans (by decide) hf)
  obtain rfl : 'l' = ch := Option.some.inj (Eq.trans (by decide) hch)
  rw [hfound (by decide) (.inr (by decide)), hline]
  rfl

theorem indentedStart_missed : ∃ c,
    docstringReader .small (quotedSubject indentedStart).token.text =
      .ok (quotedSubject indentedStart).reading ∧
    (quotedSubject indentedStart).reading.comment = some c ∧
    firstVisible c.content.toList = some 'l' ∧ isAsciiLower 'l' = true ∧
    (quotedSubject indentedStart).checkCapital = .ok [] := by
  obtain ⟨-, hread, -⟩ := quotedSubject_read .small indentedStart (by decide) (by decide)
  have hsome : (quotedSubject indentedStart).reading.comment.any (fun c =>
      firstVisible c.content.toList == some 'l' && startsUpper c.content.toList) = true := by decide
  obtain ⟨c, hc, hcontent⟩ := (Option.any_eq_true ..).1 hsome
  rw [Bool.and_eq_true, beq_iff_eq] at hcontent
  refine ⟨c, hread, hc, hcontent.1, by decide, ?_⟩
  rw [Subject.checkCapital_findings hc, DocComment.capitalFindings, hcontent.2]
  rfl

end DocLint
