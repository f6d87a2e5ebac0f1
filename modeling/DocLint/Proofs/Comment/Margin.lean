import DocLint.Proofs.Comment.Reindent

/-!
# One margin for all lines

Dedenting trims the first line at both ends. Of all other lines it cuts off the
same number of characters, after it has trimmed them on the right. The number is
the least indentation of a line that is not blank, so only blanks are cut off, no
line that holds anything becomes empty, and some line is left without any
indentation. Then there is no margin to cut off a second time.

Results:
* `exists_at_margin`, `margin_map_drop`: nothing is left of the margin once it is cut
  off.
* `Dedents`: what dedenting with a margin makes of lines.
* `dedent_law`: dedenting does so, with one margin for the whole list, and does
  nothing more when it is done again.
-/
namespace DocLint

open Text

variable {line text : List Char} {rest ls : List (List Char)} {m : Nat}

/-! ## Indentations -/

theorem Text.isBlank_of_mem_take_indent (h : m ≤ indent line) :
    ∀ c ∈ line.take m, isBlank c = true := by
  have hstart : line.take m <+: line.takeWhile isBlank := by
    refine List.prefix_of_prefix_length_le (List.take_prefix m line)
      (List.takeWhile_prefix isBlank) ?_
    exact Nat.le_trans (List.length_take_le m line) h
  exact fun c hc => List.mem_takeWhile_imp (hstart.subset hc)

theorem Text.drop_indent (line : List Char) : line.drop (indent line) = trimLeft line :=
  calc line.drop (indent line)
    _ = (line.takeWhile isBlank ++ trimLeft line).drop (indent line) := by
        rw [trimLeft_append_takeWhile]
    _ = trimLeft line := List.drop_left

/-- A line that holds anything starts with that once its indentation is cut off. -/
theorem Text.exists_head_drop_indent (h : isBlankText line = false) :
    ∃ c, (line.drop (indent line)).head? = some c ∧ isBlank c = false := by
  rw [drop_indent]
  rcases forall_isBlank_or_exists line with hblank | ⟨before, c, after, rfl, hbefore, hc⟩
  · rw [isBlankText, List.all_eq_true.2 hblank] at h
    cases h
  · refine ⟨c, ?_, hc⟩
    rw [trimLeft_append hbefore, trimLeft_cons hc, List.head?_cons]

/-- The end of a text that was trimmed on the right is trimmed on the right. -/
theorem Text.trimRight_of_suffix (h : line <:+ trimRight text) : trimRight line = line :=
  List.rdropWhile_eq_self_iff.2 fun hne => by simp [isBlank_getLast_of_suffix h hne]

/-! ## What is left of the margin -/

theorem margin_eq_zero (h : ∃ line ∈ rest, ∃ c, line.head? = some c ∧ isBlank c = false) :
    margin rest = 0 := by
  obtain ⟨line, hline, c, hhead, hc⟩ := h
  obtain ⟨more, rfl⟩ := List.head?_eq_some_iff.1 hhead
  have hle := margin_le_indent hline (List.cons_ne_nil c more)
  rw [indent, List.takeWhile_cons_of_neg (by simp [hc])] at hle
  exact Nat.le_zero.1 hle

theorem margin_of_empty (h : ∀ line ∈ rest, line = []) : margin rest = 0 := by
  have hfilled : rest.filter (fun line => !line.isEmpty) = [] :=
    List.filter_eq_nil_iff.2 fun line hline => by simp [h line hline]
  rw [margin, hfilled]
  rfl

/-- Trimmed lines have one that starts at the margin, unless they are all empty. -/
theorem exists_at_margin (h : ∃ line ∈ rest.map trimRight, line ≠ []) :
    ∃ line ∈ rest.map trimRight,
      ∃ c, (line.drop (margin (rest.map trimRight))).head? = some c ∧ isBlank c = false := by
  obtain ⟨line, hline, hne, hindent⟩ := exists_indent_eq_margin h
  obtain ⟨l, -, rfl⟩ := List.mem_map.1 hline
  obtain ⟨c, hhead, hc⟩ :=
    exists_head_drop_indent (isBlankText_of_suffix_trimRight (List.suffix_refl _) hne)
  exact ⟨trimRight l, hline, c, hindent ▸ hhead, hc⟩

/-- Nothing is left of the margin of trimmed lines once it is cut off. -/
theorem margin_map_drop (rest : List (List Char)) :
    margin ((rest.map trimRight).map (·.drop (margin (rest.map trimRight)))) = 0 := by
  by_cases hfilled : ∃ line ∈ rest.map trimRight, line ≠ []
  · obtain ⟨line, hline, hstart⟩ := exists_at_margin hfilled
    exact margin_eq_zero ⟨_, List.mem_map_of_mem hline, hstart⟩
  · apply margin_of_empty
    intro dropped hdropped
    obtain ⟨line, hline, rfl⟩ := List.mem_map.1 hdropped
    have hempty : line = [] := by
      by_contra hne
      exact hfilled ⟨line, hline, hne⟩
    rw [hempty, List.drop_nil]

/-! ## Dedenting a list of lines -/

theorem dedent_cons (first : List Char) (rest : List (List Char)) : dedent (first :: rest) =
    trim first :: (rest.map trimRight).map (·.drop (margin (rest.map trimRight))) := by
  rw [← trimLeft_trimRight]
  rfl

theorem dedent_dedent (ls : List (List Char)) : dedent (dedent ls) = dedent ls := by
  cases ls with
  | nil => rfl
  | cons first rest =>
    have htrimmed : ((rest.map trimRight).map (·.drop (margin (rest.map trimRight)))).map
        trimRight = (rest.map trimRight).map (·.drop (margin (rest.map trimRight))) := by
      refine (List.map_congr_left fun line hline => ?_).trans (List.map_id _)
      obtain ⟨l, hl, rfl⟩ := List.mem_map.1 hline
      obtain ⟨l, -, rfl⟩ := List.mem_map.1 hl
      exact trimRight_of_suffix (List.drop_suffix _ _)
    rw [dedent_cons, dedent_cons, trim_trim, htrimmed, margin_map_drop]
    simp only [List.drop_zero, List.map_id']

theorem dedent_eq_nil_iff {i : Nat} (hline : ls[i]? = some line) :
    (dedent ls)[i]? = some [] ↔ isBlankText line = true := by
  have hempty : ((dedent ls)[i]?).map List.isEmpty = some (isBlankText line) := by
    rw [← List.getElem?_map, map_isEmpty_dedent, blankLines, List.getElem?_map, hline,
      Option.map_some]
  obtain ⟨dedented, hdedented, hblank⟩ := Option.map_eq_some_iff.1 hempty
  rw [hdedented, Option.some.injEq, ← hblank, List.isEmpty_iff]

/-- What dedenting with the margin `m` makes of lines: as many lines, and empty ones
where there were blank ones. -/
structure Dedents (m : Nat) (ls ds : List (List Char)) : Prop where
  length_eq : ds.length = ls.length
  empty_iff : ∀ (i : Nat) (line : List Char), ls[i]? = some line →
    (ds[i]? = some [] ↔ isBlankText line = true)
  first : ds[0]? = ls[0]?.map trim
  /-- Only blanks are cut off from the start of a later line. -/
  later : ∀ (i : Nat) (line : List Char), ls[i + 1]? = some line → isBlankText line = false →
    ds[i + 1]? = some ((trimRight line).drop m) ∧ ∀ c ∈ (trimRight line).take m, isBlank c = true
  /-- No more could be cut off. -/
  flush : (∃ line ∈ ls.tail, isBlankText line = false) →
    ∃ line ∈ ds.tail, ∃ c, line.head? = some c ∧ isBlank c = false

theorem dedents_dedent (first : List Char) (rest : List (List Char)) :
    Dedents (margin (rest.map trimRight)) (first :: rest) (dedent (first :: rest)) := by
  have hfilled : ∀ line, isBlankText line = false → trimRight line ≠ [] := by
    intro line hvisible hnil
    rw [trimRight_eq_nil_iff.1 hnil] at hvisible
    cases hvisible
  refine ⟨length_dedent _, fun i line => dedent_eq_nil_iff, ?_, ?_, ?_⟩
  · rw [dedent_cons]
    rfl
  · intro i line hline hvisible
    rw [List.getElem?_cons_succ] at hline
    constructor
    · rw [dedent_cons, List.getElem?_cons_succ, List.getElem?_map, List.getElem?_map, hline]
      rfl
    · exact isBlank_of_mem_take_indent (margin_le_indent
        (List.mem_map_of_mem (List.mem_of_getElem? hline)) (hfilled line hvisible))
  · rintro ⟨line, hline, hvisible⟩
    obtain ⟨l, hl, hstart⟩ := exists_at_margin
      ⟨trimRight line, List.mem_map_of_mem hline, hfilled line hvisible⟩
    refine ⟨l.drop (margin (rest.map trimRight)), ?_, hstart⟩
    rw [dedent_cons]
    exact List.mem_map_of_mem hl

/-- Dedenting cuts off one margin, and it does nothing when it is done again. -/
theorem dedent_law (first : List Char) (rest : List (List Char)) :
    (∃ m, Dedents m (first :: rest) (dedent (first :: rest))) ∧
      dedent (dedent (first :: rest)) = dedent (first :: rest) :=
  ⟨⟨margin (rest.map trimRight), dedents_dedent first rest⟩, dedent_dedent _⟩

/-- A line of blanks has no part in the margin, however short it is. -/
example : dedent (["  A. ", "    b", " ", "      c  "].map String.toList) =
    ["A.", "b", "", "  c"].map String.toList := by
  decide

end DocLint
