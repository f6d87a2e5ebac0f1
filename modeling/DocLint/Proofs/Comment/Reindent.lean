import DocLint.Proofs.Comment.Dedent

/-!
# Indenting the lines of a comment further

Inserting the same blanks at the start of all lines but the first changes the
indentation of each line that holds anything by the same number, and so it
changes the common margin by that number. Dedenting takes the blanks out again.
A line of blanks is trimmed to nothing in either case.

Results:
* `lines_indentRest`: the lines of a text that was indented further.
* `margin_indentLine`: the common margin.
* `dedent_indented`: dedenting forgets the additional blanks.
* `docstringReader_indentRest`: what is read.
-/
namespace DocLint

open Text

variable {blanks line text : List Char} {rest : List (List Char)}

/-! ## The lines -/

/-- A text with blanks inserted at the start of every line after the first. -/
def Text.indentRest (blanks text : List Char) : List Char :=
  text.flatMap fun c => if c = '\n' then c :: blanks else [c]

theorem Text.lines_append_left (h : '\n' ∉ line) (text : List Char) :
    lines (line ++ text) = (lines text).modifyHead (line ++ ·) := by
  induction line with
  | nil =>
    rw [List.nil_append]
    cases lines text <;> rfl
  | cons c line ih =>
    rw [List.mem_cons, not_or] at h
    rw [List.cons_append, lines, if_neg (Ne.symm h.1), ih h.2, List.modifyHead_modifyHead]
    rfl

theorem Text.lines_indentRest (h : '\n' ∉ blanks) (text : List Char) :
    ∃ first rest, lines text = first :: rest ∧
      lines (indentRest blanks text) = first :: rest.map (blanks ++ ·) := by
  induction text with
  | nil => exact ⟨[], [], rfl, rfl⟩
  | cons c text ih =>
    obtain ⟨first, rest, htext, hindented⟩ := ih
    by_cases hc : c = '\n'
    · subst hc
      have hcons : indentRest blanks ('\n' :: text) =
          '\n' :: (blanks ++ indentRest blanks text) := by
        simp [indentRest]
      refine ⟨[], first :: rest, ?_, ?_⟩
      · rw [lines, if_pos rfl, htext]
      · rw [hcons, lines, if_pos rfl, lines_append_left h, hindented]
        rfl
    · have hcons : indentRest blanks (c :: text) = c :: indentRest blanks text := by
        simp [indentRest, hc]
      refine ⟨c :: first, rest, ?_, ?_⟩
      · rw [lines, if_neg hc, htext]
        rfl
      · rw [hcons, lines, if_neg hc, hindented]
        rfl

/-! ## The margin -/

/-- A line with blanks before it, unless it is empty. -/
def indentLine (blanks line : List Char) : List Char := if line = [] then [] else blanks ++ line

theorem trimRight_indentLine (h : ∀ c ∈ blanks, isBlank c = true) (line : List Char) :
    trimRight (blanks ++ line) = indentLine blanks (trimRight line) := by
  unfold indentLine
  rcases forall_isBlank_or_exists line with hblank | ⟨before, c, after, rfl, -, hc⟩
  · have hall : ∀ c ∈ blanks ++ line, isBlank c = true := by
      intro c hmem
      rcases List.mem_append.1 hmem with hmem | hmem
      · exact h c hmem
      · exact hblank c hmem
    rw [trimRight_of_blank hall, trimRight_of_blank hblank, if_pos rfl]
  · rw [trimRight_append (by simp) hc, trimRight_append_cons hc, if_neg (by simp)]

theorem indent_append (h : ∀ c ∈ blanks, isBlank c = true) (line : List Char) :
    indent (blanks ++ line) = blanks.length + indent line := by
  unfold indent
  rw [List.takeWhile_append_of_pos h, List.length_append]

/-- Some line is indented by the common margin alone. -/
theorem exists_indent_eq_margin (h : ∃ line ∈ rest, line ≠ []) :
    ∃ line ∈ rest, line ≠ [] ∧ indent line = margin rest := by
  obtain ⟨line, hmem, hline⟩ := h
  unfold margin
  cases hmin : ((rest.filter fun line => !line.isEmpty).map indent).min? with
  | none =>
    rw [List.min?_eq_none_iff, List.map_eq_nil_iff, List.filter_eq_nil_iff] at hmin
    exact absurd (by simpa using hline) (hmin line hmem)
  | some m =>
    have hm := (List.min?_eq_some_iff.1 hmin).1
    obtain ⟨least, hleast, rfl⟩ := List.mem_map.1 hm
    rw [List.mem_filter] at hleast
    exact ⟨least, hleast.1, by simpa using hleast.2, rfl⟩

/-- The common margin grows by the number of blanks. -/
theorem margin_indentLine (hblanks : ∀ c ∈ blanks, isBlank c = true)
    (h : ∃ line ∈ rest, line ≠ []) :
    margin (rest.map (indentLine blanks)) = blanks.length + margin rest := by
  have hfilled : ∀ line, line ≠ [] → indentLine blanks line = blanks ++ line := by
    intro line hline
    unfold indentLine
    rw [if_neg hline]
  apply Nat.le_antisymm
  · obtain ⟨line, hmem, hline, hindent⟩ := exists_indent_eq_margin h
    have hle : margin (rest.map (indentLine blanks)) ≤ indent (indentLine blanks line) := by
      apply margin_le_indent (List.mem_map_of_mem hmem)
      rw [hfilled line hline]
      simp [hline]
    rwa [hfilled line hline, indent_append hblanks, hindent] at hle
  · have h' : ∃ line ∈ rest.map (indentLine blanks), line ≠ [] := by
      obtain ⟨line, hmem, hline⟩ := h
      refine ⟨indentLine blanks line, List.mem_map_of_mem hmem, ?_⟩
      rw [hfilled line hline]
      simp [hline]
    obtain ⟨least, hleast, hne, hindent⟩ := exists_indent_eq_margin h'
    obtain ⟨line, hmem, rfl⟩ := List.mem_map.1 hleast
    have hline : line ≠ [] := by
      intro hnil
      simp [indentLine, hnil] at hne
    rw [← hindent, hfilled line hline, indent_append hblanks]
    have hle := margin_le_indent hmem hline
    omega

/-! ## The dedented lines -/

/-- Dedenting takes out the blanks that were inserted. -/
theorem dedent_indented (hblanks : ∀ c ∈ blanks, isBlank c = true) (first : List Char)
    (rest : List (List Char)) :
    dedent (first :: rest.map (blanks ++ ·)) = dedent (first :: rest) := by
  have htrim : (rest.map (blanks ++ ·)).map trimRight =
      (rest.map trimRight).map (indentLine blanks) := by
    rw [List.map_map, List.map_map]
    exact List.map_congr_left fun line _ => trimRight_indentLine hblanks line
  unfold dedent
  rw [List.map_cons, List.map_cons, htrim]
  simp only [List.cons.injEq, true_and]
  generalize rest.map trimRight = trimmed
  by_cases hfilled : ∃ line ∈ trimmed, line ≠ []
  · rw [margin_indentLine hblanks hfilled, List.map_map]
    apply List.map_congr_left
    intro line _
    by_cases hline : line = []
    · simp [indentLine, hline]
    · simp only [Function.comp_apply, indentLine, if_neg hline]
      rw [← List.drop_drop, List.drop_left]
  · -- All lines are empty, and stay so, whatever the margin is.
    have hempty : ∀ line ∈ trimmed, line = [] := by
      intro line hline
      by_contra hne
      exact hfilled ⟨line, hline, hne⟩
    rw [List.map_map]
    apply List.map_congr_left
    intro line hline
    simp [indentLine, hempty line hline]

/-- What is read from a comment does not change if all its lines but the first are
indented further, and alike. -/
theorem docstringReader_indentRest {lexicon : Literal.Lexicon} {docstring docstring' : String}
    {value : List Char}
    (hblanks : ∀ c ∈ blanks, isBlank c = true) (hlines : '\n' ∉ blanks)
    (hvalue : Literal.readText lexicon docstring = .ok value)
    (hvalue' : Literal.readText lexicon docstring' = .ok (indentRest blanks value)) :
    docstringReader lexicon docstring' = docstringReader lexicon docstring := by
  obtain ⟨first, rest, htext, hindented⟩ := lines_indentRest hlines value
  rw [docstringReader_eq hvalue, docstringReader_eq hvalue', htext, hindented,
    dedent_indented hblanks]

end DocLint
