import DocLint.Comment.Reader
import DocLint.Proofs.Text.Trim

/-!
# What dedenting leaves of a line

Each line of a dedented text is the end of a line that was trimmed on the right.
So it holds no characters of its own, and if it holds anything at all, then its
last character is not blank.

Results:
* `suffix_of_mem_dedent`: where a dedented line comes from.
* `isBlankText_of_mem_dedent`: a dedented line that is not empty is not blank.
* `lineFeed_not_mem_dedent`: the dedented lines of a text are still lines.
* `map_trim_dedent`: what trimming leaves of a dedented line.
* `map_isEmpty_dedent`: which lines become empty.
* `exists_value_of_docstringReader`: what is read is read from such lines.
-/
namespace DocLint

open Text

variable {lexicon : Literal.Lexicon} {line text : List Char} {ls : List (List Char)}

theorem Text.lineFeed_not_mem_lines (h : line ∈ lines text) : '\n' ∉ line := by
  induction text generalizing line with
  | nil =>
    obtain rfl := List.mem_singleton.1 h
    exact List.not_mem_nil
  | cons c rest ih =>
    rw [lines] at h
    split at h
    · rcases List.mem_cons.1 h with rfl | h
      · exact List.not_mem_nil
      · exact ih h
    · next hc =>
      cases hrest : lines rest with
      | nil => exact absurd hrest (lines_ne_nil rest)
      | cons first others =>
        rw [hrest] at h ih
        rcases List.mem_cons.1 h with rfl | h
        · rw [List.mem_cons, not_or]
          exact ⟨Ne.symm hc, ih (List.mem_cons_self ..)⟩
        · exact ih (List.mem_cons_of_mem first h)

theorem Text.isBlank_getLast_of_suffix (h : line <:+ trimRight text) (hne : line ≠ []) :
    isBlank (line.getLast hne) = false := by
  have htext : trimRight text ≠ [] := fun hnil => hne (List.suffix_nil.1 (hnil ▸ h))
  rw [h.getLast hne]
  exact Bool.eq_false_iff.2 (List.rdropWhile_last_not isBlank text htext)

/-- The end of a text that was trimmed on the right is not blank, unless it is
empty. -/
theorem Text.isBlankText_of_suffix_trimRight (h : line <:+ trimRight text) (hne : line ≠ []) :
    isBlankText line = false :=
  isBlankText_of_mem (List.getLast_mem hne) (isBlank_getLast_of_suffix h hne)

/-- A dedented line is the end of a line that was trimmed on the right. -/
theorem suffix_of_mem_dedent (h : line ∈ dedent ls) : ∃ l ∈ ls, line <:+ trimRight l := by
  unfold dedent at h
  cases ls with
  | nil => cases h
  | cons first rest =>
    rcases List.mem_cons.1 h with rfl | h
    · exact ⟨first, List.mem_cons_self .., List.dropWhile_suffix _⟩
    · obtain ⟨trimmed, htrimmed, rfl⟩ := List.mem_map.1 h
      obtain ⟨l, hl, rfl⟩ := List.mem_map.1 htrimmed
      exact ⟨l, List.mem_cons_of_mem first hl, List.drop_suffix _ _⟩

theorem isBlankText_of_mem_dedent (h : line ∈ dedent ls) (hne : line ≠ []) :
    isBlankText line = false := by
  obtain ⟨l, -, hsuffix⟩ := suffix_of_mem_dedent h
  exact isBlankText_of_suffix_trimRight hsuffix hne

theorem lineFeed_not_mem_dedent (h : line ∈ dedent (lines text)) : '\n' ∉ line := by
  obtain ⟨l, hl, hsuffix⟩ := suffix_of_mem_dedent h
  exact fun hmem => lineFeed_not_mem_lines hl ((trimRight_isPrefix l).subset (hsuffix.subset hmem))

theorem margin_le_indent {rest : List (List Char)} (h : line ∈ rest) (hne : line ≠ []) :
    margin rest ≤ indent line :=
  List.min?_getD_le_of_mem (List.mem_map_of_mem (List.mem_filter.2 ⟨h, by simpa using hne⟩))

theorem length_dedent (ls : List (List Char)) : (dedent ls).length = ls.length := by
  cases ls with
  | nil => rfl
  | cons first rest => simp [dedent]

/-- Dedenting drops blank characters from the ends of lines only. -/
theorem map_trim_dedent (ls : List (List Char)) : (dedent ls).map trim = ls.map trim := by
  unfold dedent
  cases ls with
  | nil => rfl
  | cons first rest =>
    have hrest : ((rest.map trimRight).map (·.drop (margin (rest.map trimRight)))).map trim =
        rest.map trim :=
      calc ((rest.map trimRight).map (·.drop (margin (rest.map trimRight)))).map trim
        _ = (rest.map trimRight).map trim := by
            rw [List.map_map]
            refine List.map_congr_left fun l hl => ?_
            by_cases hnil : l = []
            · simp [hnil]
            · exact trim_drop (margin_le_indent hl hnil)
        _ = rest.map trim := by
            rw [List.map_map]
            exact List.map_congr_left fun l _ => trim_trimRight l
    simp only [List.map_cons, hrest, trim_trimLeft, trim_trimRight]

/-- Which lines of a text are blank. -/
def blankLines (ls : List (List Char)) : List Bool := ls.map isBlankText

/-- The lines that are empty after dedenting are the ones that were blank before. -/
theorem map_isEmpty_dedent (ls : List (List Char)) :
    (dedent ls).map List.isEmpty = blankLines ls := by
  have htrim : ∀ ls : List (List Char), ls.map isBlankText = (ls.map trim).map List.isEmpty := by
    intro ls
    rw [List.map_map]
    exact List.map_congr_left fun line _ => isBlankText_eq_isEmpty_trim line
  calc (dedent ls).map List.isEmpty
    _ = (dedent ls).map isBlankText := by
        apply List.map_congr_left
        intro line hline
        cases line with
        | nil => rfl
        | cons c line => exact (isBlankText_of_mem_dedent hline (List.cons_ne_nil _ _)).symm
    _ = blankLines ls := by rw [htrim, map_trim_dedent, ← htrim, blankLines]

theorem docstringReader_eq {text : String} {value : List Char}
    (h : Literal.readText lexicon text = .ok value) :
    docstringReader lexicon text = .ok (Reader.readLines {} (dedent (lines value))) := by
  simp only [docstringReader, Reader.read, Reader.tokenLines, h, bind, Except.bind, pure,
    Except.pure]

/-- Whatever is read is read from the dedented lines of a text. -/
theorem exists_value_of_docstringReader {docstring : String} {r : Reading}
    (h : docstringReader lexicon docstring = .ok r) :
    ∃ value, Literal.readText lexicon docstring = .ok value ∧
      r = Reader.readLines {} (dedent (lines value)) := by
  cases hvalue : Literal.readText lexicon docstring with
  | error fault =>
    simp only [docstringReader, Reader.read, Reader.tokenLines, hvalue, bind, Except.bind] at h
    cases h
  | ok value =>
    rw [docstringReader_eq hvalue] at h
    exact ⟨value, rfl, (Except.ok.inj h).symm⟩

end DocLint
