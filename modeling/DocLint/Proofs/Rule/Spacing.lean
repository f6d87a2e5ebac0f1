import DocLint.Proofs.Comment.DescriptionSpan
import DocLint.Proofs.Rule.Shape

/-!
# The spacing of a comment, by its blank lines

What is found about the spacing of a description can be told from the text that
the docstring stands for, without dedenting it: from which of its lines are
blank, and from where the first tag line is.

Results:
* `tagStart_dedent`: dedenting keeps the first tag line.
* `Description.Cuts.wideGap_iff`, `Description.Cuts.blanksBefore_eq`: the numbers
  of empty lines between the parts and after them.
* `Subject.checkDescription_spacing`: the verdict on the description.
-/
namespace DocLint

open Text

variable {ls : List (List Char)} {d : Description}

/-! ## Blank lines -/

theorem tagStart_eq_findIdx_map (ls : List (List Char)) :
    tagStart ls = (ls.map trim).findIdx startsTag := by
  rw [List.findIdx_map]
  rfl

theorem tagStart_dedent (ls : List (List Char)) : tagStart (dedent ls) = tagStart ls := by
  rw [tagStart_eq_findIdx_map, map_trim_dedent, ← tagStart_eq_findIdx_map]

/-- Whether the first blank line after a position starts a run of at least two, and a
line follows the run, before the given end, that is not blank. -/
def WideGap (blanks : List Bool) (f stop : Nat) : Prop :=
  ∃ j k, firstIn id blanks (f + 1) stop = some j ∧ blanks[j + 1]? = some true ∧
    j + 1 < k ∧ k < stop ∧ blanks[k]? = some false

theorem wideGap_take {blanks : List Bool} {f stop : Nat} :
    WideGap (blanks.take stop) f stop ↔ WideGap blanks f stop := by
  unfold WideGap
  constructor
  · rintro ⟨j, k, hj, hnext, hjk, hk, hline⟩
    rw [firstIn_take (Nat.le_refl _)] at hj
    rw [List.getElem?_take_of_lt (by omega)] at hnext hline
    exact ⟨j, k, hj, hnext, hjk, hk, hline⟩
  · rintro ⟨j, k, hj, hnext, hjk, hk, hline⟩
    refine ⟨j, k, ?_, ?_, hjk, hk, ?_⟩
    · rw [firstIn_take (Nat.le_refl _)]
      exact hj
    · rw [List.getElem?_take_of_lt (by omega)]
      exact hnext
    · rw [List.getElem?_take_of_lt (by omega)]
      exact hline

/-- The number of blank lines directly before a position. -/
def blanksBefore (blanks : List Bool) (i : Nat) : Nat :=
  ((blanks.take i).reverse.takeWhile id).length

theorem blanksBefore_take (blanks : List Bool) (i : Nat) :
    blanksBefore (blanks.take i) i = blanksBefore blanks i := by
  rw [blanksBefore, blanksBefore, List.take_take, Nat.min_self]

/-! ## The empty lines of a description -/

namespace Description.Cuts

theorem map_isEmpty (h : d.Cuts ls) : ls.map List.isEmpty =
    List.replicate d.before true ++ (List.replicate d.short.length false ++
      (List.replicate d.between true ++
        (d.long.map List.isEmpty ++ List.replicate d.after true))) := by
  have hshort : d.short.map List.isEmpty = List.replicate d.short.length false := by
    rw [List.eq_replicate_iff]
    refine ⟨List.length_map _, ?_⟩
    intro b hb
    obtain ⟨line, hline, rfl⟩ := List.mem_map.1 hb
    exact Bool.eq_false_iff.2 fun hnil => h.short_filled line hline (List.isEmpty_iff.1 hnil)
  conv => lhs; rw [h.lines_eq]
  simp [body, hshort, List.append_assoc]

theorem short_at (h : d.Cuts ls) {j : Nat} (h1 : d.before ≤ j)
    (h2 : j < d.before + d.short.length) : (ls.map List.isEmpty)[j]? = some false := by
  rw [h.map_isEmpty, List.getElem?_append_right (by simpa using h1),
    List.getElem?_append_left (by simp; omega), List.getElem?_replicate]
  rw [if_pos (by simp; omega)]

theorem between_at (h : d.Cuts ls) {j : Nat} (h1 : d.before + d.short.length ≤ j)
    (h2 : j < d.before + d.short.length + d.between) :
    (ls.map List.isEmpty)[j]? = some true := by
  rw [h.map_isEmpty, List.getElem?_append_right (by simp; omega),
    List.getElem?_append_right (by simp; omega), List.getElem?_append_left (by simp; omega),
    List.getElem?_replicate]
  rw [if_pos (by simp; omega)]

/-- The long part, if there is one, starts with a line that holds something. -/
theorem long_at (h : d.Cuts ls) (hbetween : 0 < d.between) :
    (ls.map List.isEmpty)[d.before + d.short.length + d.between]? = some false := by
  rcases h.long with ⟨-, hzero⟩ | ⟨-, first, rest, hlong, hfirst, -⟩
  · omega
  · rw [h.map_isEmpty, List.getElem?_append_right (by simp; omega),
      List.getElem?_append_right (by simp; omega), List.getElem?_append_right (by simp; omega),
      List.getElem?_append_left (by simp [hlong]; omega), hlong]
    simp [hfirst, Nat.sub_sub]

/-- Without a long part nothing comes after the short part. -/
theorem after_at (h : d.Cuts ls) (hbetween : d.between = 0) {j : Nat}
    (h1 : d.before + d.short.length ≤ j) : (ls.map List.isEmpty)[j]? ≠ some false := by
  intro hline
  rcases h.long with ⟨hlong, -⟩ | ⟨hpos, -⟩
  · rw [h.map_isEmpty, hlong, hbetween, List.getElem?_append_right (by simp; omega),
      List.getElem?_append_right (by simp; omega)] at hline
    have hmem := List.mem_of_getElem? hline
    simp at hmem
  · omega

/-- The gap between the parts is wide if there are two empty lines in it. -/
theorem wideGap_iff (h : d.Cuts ls) :
    WideGap (ls.map List.isEmpty) d.before ls.length ↔ 2 ≤ d.between := by
  have hshort : 0 < d.short.length := List.length_pos_iff.2 h.short
  constructor
  · rintro ⟨j, k, hj, hnext, hjk, -, hline⟩
    obtain ⟨hlo, -, hblank, hbefore⟩ := firstIn_eq_some_iff.1 hj
    have hend : d.before + d.short.length ≤ j := by
      by_contra hlt
      rw [h.short_at (by omega) (by omega)] at hblank
      cases hblank
    have hpos : 0 < d.between := by
      apply Nat.pos_of_ne_zero
      intro hzero
      exact h.after_at hzero (by omega) hline
    have hfirst : j = d.before + d.short.length := by
      by_contra hne
      have hearlier := hbefore (d.before + d.short.length) (by omega) (by omega)
      rw [h.between_at (Nat.le_refl _) (by omega)] at hearlier
      cases hearlier
    by_contra hone
    -- With one empty line only the long part would start right after it.
    have hlong := h.long_at hpos
    rw [show d.before + d.short.length + d.between = j + 1 by omega, hnext] at hlong
    cases hlong
  · intro hbetween
    have hlong := h.long_at (by omega)
    have hlt := (List.getElem?_eq_some_iff.1 hlong).1
    rw [List.length_map] at hlt
    refine ⟨d.before + d.short.length, _, ?_, ?_, ?_, hlt, hlong⟩
    · rw [firstIn_eq_some_iff]
      refine ⟨by omega, by omega, ?_, ?_⟩
      · rw [h.between_at (Nat.le_refl _) (by omega)]
        rfl
      · intro j h1 h2
        rw [h.short_at (by omega) h2]
        rfl
    · exact h.between_at (by omega) (by omega)
    · omega

theorem blanksBefore_eq (h : d.Cuts ls) :
    blanksBefore (ls.map List.isEmpty) ls.length = d.after := by
  obtain ⟨first, rest, hbody, -, hlast⟩ := h.body_ends
  have hreverse : (ls.map List.isEmpty).reverse = List.replicate d.after true ++
      ((d.body.map List.isEmpty).reverse ++ List.replicate d.before true) := by
    conv => lhs; rw [h.lines_eq]
    simp
  have hhead : ((d.body.map List.isEmpty).reverse ++ List.replicate d.before true).head? =
      some false := by
    have hfilled := Bool.eq_false_iff.2 fun hnil => hlast (List.isEmpty_iff.1 hnil)
    rw [List.head?_append, List.head?_reverse, List.getLast?_map, hbody,
      List.getLast?_eq_some_getLast (List.cons_ne_nil _ _), Option.map_some, hfilled,
      Option.some_or]
  have htake : (ls.map List.isEmpty).take ls.length = ls.map List.isEmpty := by
    rw [← List.length_map List.isEmpty, List.take_length]
  rw [blanksBefore, htake, hreverse, takeWhile_append_stop, List.length_replicate]
  · intro b hb
    exact List.eq_of_mem_replicate hb
  · intro b hb
    rw [hhead] at hb
    cases hb
    rfl

end Description.Cuts

/-! ## The verdict -/

/-- What is found about the spacing of a comment, given which of its lines are blank,
its first line `f` that is not, and the position of its first tag line. -/
structure SpacingFound (blanks : List Bool) (tag f : Nat) (fs : List Finding) : Prop where
  order : (fs.map Finding.check).Sublist [.spacingBeforeShort, .spacingBetween, .spacingBeforeTags]
  at_first : ∀ x ∈ fs, x.args = [] ∧ x.line = f
  beforeShort : .spacingBeforeShort ∈ fs.map Finding.check ↔ 2 ≤ f
  between : .spacingBetween ∈ fs.map Finding.check ↔ WideGap blanks f tag
  beforeTags : .spacingBeforeTags ∈ fs.map Finding.check ↔
    tag < blanks.length ∧ blanksBefore blanks tag ≠ 1

namespace DocComment

variable {params : List ParamTag} {returnTag : Option ReturnTag} {c : DocComment} {f : Finding}

/-- With a short part only the spacing may be wrong. -/
theorem spacing_sublist (hshort : isBlankText c.shortDescription.toList = false) :
    (c.descriptionFindings.map Finding.check).Sublist
      [.spacingBeforeShort, .spacingBetween, .spacingBeforeTags] := by
  rcases List.sublist_cons_iff.1 c.descriptionFindings_sublist with hrest | ⟨checks, hchecks, -⟩
  · exact hrest
  · have hmem : .shortMissing ∈ c.descriptionFindings.map Finding.check := by
      rw [hchecks]
      exact List.mem_cons_self ..
    obtain ⟨f, hf, hcheck⟩ := List.mem_map.1 hmem
    rw [isBlankText_of_shortMissing hf hcheck] at hshort
    cases hshort

theorem mem_spacing_iff (hshort : isBlankText c.shortDescription.toList = false) :
    (.spacingBeforeShort ∈ c.descriptionFindings.map Finding.check ↔ 1 < c.line) ∧
    (.spacingBetween ∈ c.descriptionFindings.map Finding.check ↔
      c.longDescription ≠ "" ∧ c.blankLinesBeforeLong ≠ 1) ∧
    (.spacingBeforeTags ∈ c.descriptionFindings.map Finding.check ↔
      ∃ n, c.blankLinesBeforeTags = some n ∧ n ≠ 1) := by
  unfold descriptionFindings
  rw [if_neg (Bool.eq_false_iff.1 hshort)]
  refine ⟨?_, ?_, ?_⟩
  · simp [apply_ite (List.map Finding.check)]
  · simp [apply_ite (List.map Finding.check)]
  · simp [apply_ite (List.map Finding.check), Option.any_eq_true]

theorem of_mem_spacing (hshort : isBlankText c.shortDescription.toList = false)
    (h : f ∈ c.descriptionFindings) : f.args = [] ∧ f.line = c.line := by
  unfold descriptionFindings at h
  rw [if_neg (Bool.eq_false_iff.1 hshort)] at h
  simp only [List.mem_append, List.mem_ite_nil_right, List.mem_singleton] at h
  rcases h with (⟨-, rfl⟩ | ⟨-, rfl⟩) | ⟨-, rfl⟩
  · exact ⟨rfl, rfl⟩
  · exact ⟨rfl, rfl⟩
  · exact ⟨rfl, rfl⟩

/-- Without a description the first line that holds something is a tag line. -/
theorem firstIn_of_tagsOnly (hempty : ∀ line ∈ ls.take (tagStart ls), line = [])
    (htag : tagStart ls < ls.length) :
    firstIn (!·) (ls.map List.isEmpty) 0 ls.length = some (tagStart ls) := by
  have hstarts := startsTag_at_tagStart htag
  rw [List.getD_eq_getElem?_getD, List.getElem?_eq_getElem htag, Option.getD_some] at hstarts
  rw [firstIn_map, firstIn_eq_some_iff]
  refine ⟨Nat.zero_le _, htag, ?_, ?_⟩
  · rw [List.getElem?_eq_getElem htag, Option.any_some]
    cases hline : ls[tagStart ls] with
    | nil =>
      rw [hline] at hstarts
      cases hstarts
    | cons c rest => rfl
  · intro j _ hj
    have hlt : j < ls.length := Nat.lt_trans hj htag
    have hline : ls[j] = [] := by
      apply hempty
      rw [List.mem_take_iff_getElem]
      exact ⟨j, by omega, rfl⟩
    rw [List.getElem?_eq_getElem hlt, hline]
    rfl

/-- What is found about the spacing of a description, by which lines are empty. -/
theorem spacingFound_ofDescription (hcuts : d.Cuts (ls.take (tagStart ls)))
    (hshort : isBlankText (ofDescription d ls params returnTag).shortDescription.toList = false)
    (hlines : ∀ line ∈ ls, '\n' ∉ line) :
    SpacingFound (ls.map List.isEmpty) (tagStart ls) d.before
      (ofDescription d ls params returnTag).descriptionFindings := by
  have hlength : (ls.take (tagStart ls)).length = tagStart ls := by
    rw [List.length_take, Nat.min_eq_left (tagStart_le_length ls)]
  have hwide := hcuts.wideGap_iff
  rw [List.map_take, hlength, wideGap_take] at hwide
  have hafter := hcuts.blanksBefore_eq
  rw [List.map_take, hlength, blanksBefore_take] at hafter
  have hlong := longDescription_eq_empty_iff params returnTag hlines hcuts
  obtain ⟨hbefore, hbetween, htags⟩ := mem_spacing_iff hshort
  constructor
  case order => exact spacing_sublist hshort
  case at_first =>
    intro f hf
    exact of_mem_spacing hshort hf
  case beforeShort =>
    rw [hbefore]
    show 1 < (d.before : Int) ↔ 2 ≤ d.before
    omega
  case between =>
    rw [hbetween, hwide, ne_eq, hlong]
    show ¬d.long = [] ∧ (d.between : Int) ≠ 1 ↔ 2 ≤ d.between
    rcases hcuts.long with ⟨hnil, hzero⟩ | ⟨hpos, first, rest, hcons, -⟩
    · rw [hzero]
      simp [hnil]
    · have hne : ¬d.long = [] := by
        rw [hcons]
        exact List.cons_ne_nil _ _
      constructor
      · rintro ⟨-, hone⟩
        omega
      · intro htwo
        exact ⟨hne, by omega⟩
  case beforeTags =>
    rw [htags, List.length_map, hafter, ofDescription]
    by_cases htag : tagStart ls < ls.length
    · have hone : (d.after : Int) = 1 ↔ d.after = 1 := by omega
      simp [htag, hone]
    · simp [htag]

end DocComment

/-- What is found about a description, by the lines that are empty. -/
theorem DocComment.descriptionFindings_of_lines {c : DocComment} {params : List ParamTag}
    {returnTag : Option ReturnTag} (hc : DocComment.ofLines ls params returnTag = some c)
    (hfilled : ∀ line ∈ ls, line ≠ [] → isBlankText line = false)
    (hlines : ∀ line ∈ ls, '\n' ∉ line) :
    ∃ f, firstIn (!·) (ls.map List.isEmpty) 0 ls.length = some f ∧
      (f = tagStart ls ∧ f < ls.length ∧
          c.descriptionFindings = [{ check := .shortMissing, line := 0 }] ∨
        f < tagStart ls ∧
          SpacingFound (ls.map List.isEmpty) (tagStart ls) f c.descriptionFindings) := by
  rcases ofLines_cases hc with ⟨hempty, htag, rfl⟩ | ⟨d, hcuts, hcomment⟩
  · exact ⟨_, firstIn_of_tagsOnly hempty htag, .inl ⟨rfl, htag, rfl⟩⟩
  · have hfirst := hcuts.firstIn_eq
    rw [List.length_take, Nat.min_eq_left (tagStart_le_length ls),
      firstIn_take (Nat.le_refl _)] at hfirst
    have hshort : isBlankText c.shortDescription.toList = false := by
      by_contra hblank
      rw [Bool.not_eq_false] at hblank
      have hcontent := DocComment.content_of_isBlankText hc hfilled hblank
      -- The only line of an empty text is empty, and the description starts otherwise.
      have hback := lines_content params returnTag hlines hcuts
      obtain ⟨first, rest, hbody, hne, -⟩ := hcuts.body_ends
      rw [← hcomment, hcontent, hbody] at hback
      cases hback
      exact hne rfl
    rw [hcomment] at hshort ⊢
    refine ⟨d.before, ?_, .inr ⟨(firstIn_eq_some_iff.1 hfirst).2.1, ?_⟩⟩
    · rw [firstIn_map]
      exact firstIn_extend hfirst (tagStart_le_length ls)
    · exact spacingFound_ofDescription hcuts hshort hlines

/-- The verdict on the description of a docstring, by the lines of the text that it
stands for: which of them are blank, and where the first tag line is. -/
theorem Subject.checkDescription_spacing {lexicon : Literal.Lexicon} (u : Subject)
    (value : List Char) (c : DocComment)
    (hvalue : Literal.readText lexicon u.token.text = .ok value)
    (hread : docstringReader lexicon u.token.text = .ok u.reading) (hc : u.reading.comment = some c) :
    ∃ f, firstIn (!·) (blankLines (lines value)) 0 (lines value).length = some f ∧
      (startsTag (trim ((lines value).getD f [])) = true →
        u.checkDescription = .ok [u.violation { check := .shortMissing, line := 0 }]) ∧
      (startsTag (trim ((lines value).getD f [])) = false →
        ∃ fs, u.checkDescription = .ok (fs.map u.violation) ∧
          SpacingFound (blankLines (lines value)) (tagStart (lines value)) f fs) := by
  have hreading := hread
  rw [docstringReader_eq hvalue, Except.ok.injEq] at hreading
  have hcomment := hc
  rw [← hreading, Reader.readLines] at hcomment
  obtain ⟨f, hf, hfound⟩ := DocComment.descriptionFindings_of_lines hcomment
    (fun line hline hne => isBlankText_of_mem_dedent hline hne)
    (fun line hline => lineFeed_not_mem_dedent hline)
  rw [map_isEmpty_dedent, length_dedent] at hf
  rw [tagStart_dedent, length_dedent, map_isEmpty_dedent] at hfound
  have hverdict := u.checkDescription_findings hc
  refine ⟨f, hf, ?_, ?_⟩
  · intro hstarts
    rcases hfound with ⟨-, -, hmissing⟩ | ⟨hlt, -⟩
    · rw [hverdict, hmissing]
      rfl
    · rw [startsTag_before_tagStart hlt] at hstarts
      cases hstarts
  · intro hstarts
    rcases hfound with ⟨rfl, hlt, -⟩ | ⟨-, hspacing⟩
    · rw [startsTag_at_tagStart hlt] at hstarts
      cases hstarts
    · exact ⟨_, hverdict, hspacing⟩

/-- A subject whose comment starts two lines too late, with two blank lines between
its parts and three before its tag. -/
def spacedSubject : Subject where
  tokens := ⟨[⟨.function, "def", 1, 0, {}⟩,
    ⟨.docComment, tripleQuoted ([] :: describedLines), 2, 2, {}⟩]⟩
  functionIndex := 0
  commentIndex := 1
  token := ⟨.docComment, tripleQuoted ([] :: describedLines), 2, 2, {}⟩
  reading := Reader.readLines {} (dedent ([] :: describedLines))
  token_eq := rfl

/-- All that can be wrong with its spacing is found. -/
theorem spacedSubject_verdict : ∃ fs : List Finding,
    spacedSubject.checkDescription = .ok (fs.map spacedSubject.violation) ∧
    ∀ check ∈ [Check.spacingBeforeShort, .spacingBetween, .spacingBeforeTags],
      check ∈ fs.map Finding.check := by
  have hall : ([] :: describedLines).all (fun l => l.all isPlain) = true := by decide
  have hplain : ∀ l ∈ [] :: describedLines, ∀ c ∈ l, isPlain c = true := fun l hl =>
    List.all_eq_true.1 (List.all_eq_true.1 hall l hl)
  have hlines : lines (joinWith ['\n'] ([] :: describedLines)) = [] :: describedLines :=
    lines_joinWith (by decide) fun l hl => not_mem_of_isPlain (hplain l hl) (by decide)
  have hvalue : Literal.readText .small spacedSubject.token.text = .ok _ := readText_triple hplain
  have hread : docstringReader .small spacedSubject.token.text = .ok spacedSubject.reading := by
    rw [docstringReader_eq hvalue, hlines]
    rfl
  have hsome : spacedSubject.reading.comment.isSome = true := by decide
  obtain ⟨c, hc⟩ := Option.isSome_iff_exists.1 hsome
  obtain ⟨f, hf, -, hfound⟩ := spacedSubject.checkDescription_spacing _ c hvalue hread hc
  rw [hlines] at hf hfound
  obtain rfl : 2 = f := Option.some.inj (Eq.trans (by decide) hf)
  obtain ⟨fs, hfs, hspacing⟩ := hfound (by decide)
  refine ⟨fs, hfs, ?_⟩
  intro check hcheck
  simp only [List.mem_cons, List.not_mem_nil, or_false] at hcheck
  rcases hcheck with rfl | rfl | rfl
  · exact hspacing.beforeShort.2 (by decide)
  · exact hspacing.between.2 ⟨4, 6, by decide, by decide, by decide, by decide, by decide⟩
  · exact hspacing.beforeTags.2 (by decide)

end DocLint
