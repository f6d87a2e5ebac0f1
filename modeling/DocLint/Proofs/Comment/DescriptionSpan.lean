import DocLint.Proofs.Comment.TagSegments

/-!
# Where the description of a comment is, line by line

The description starts at the first line before the tags that holds anything,
and ends at the last such line. It starts with a run of lines that hold
something, the short part. If the run ends before the last line, then empty
lines follow, and after these the long part. So the parts give back the lines of
the description, and their numbers say where it stands: no line gets lost.

Results:
* `Description.Cuts.firstIn_eq`, `Description.Cuts.lastIn_eq`,
  `Description.Cuts.slice_eq`, `Description.Cuts.run_eq`: the parts of a
  description by the positions of its ends.
* `DocComment.ofLines_cases`: the comment of some lines, by what stands before the
  tags.
* `DocComment.Describes`: what a comment says about its description.
* `docstringReader_description`: what is read from a docstring.
-/
namespace DocLint

open Text

variable {ls : List (List Char)} {d : Description}

/-! ## The parts by the ends of the description -/

/-- The position of the last line of a description. -/
def Description.lastLine (d : Description) : Nat := d.before + (d.body.length - 1)

namespace Description.Cuts

/-- The description has a line that holds something at either end. -/
theorem body_ends (h : d.Cuts ls) : ∃ first rest, d.body = first :: rest ∧ first ≠ [] ∧
    (first :: rest).getLast (List.cons_ne_nil _ _) ≠ [] := by
  obtain ⟨first, rest, hshort⟩ := List.exists_cons_of_ne_nil h.short
  have hfilled := h.short_filled
  rw [hshort] at hfilled
  have hfirst := hfilled first (List.mem_cons_self ..)
  rcases h.long with ⟨hlong, hbetween⟩ | ⟨-, longFirst, longRest, hlong, -, hlast⟩
  · refine ⟨first, rest, ?_, hfirst, hfilled _ (List.getLast_mem _)⟩
    simp [body, hshort, hlong, hbetween]
  · refine ⟨first, rest ++ (List.replicate d.between [] ++ longFirst :: longRest), ?_, hfirst, ?_⟩
    · simp [body, hshort, hlong]
    · have hsuffix : longFirst :: longRest <:+
          first :: (rest ++ (List.replicate d.between [] ++ longFirst :: longRest)) :=
        ⟨first :: rest ++ List.replicate d.between [], by simp⟩
      rw [← hsuffix.getLast (List.cons_ne_nil _ _)]
      exact hlast

theorem firstIn_eq (h : d.Cuts ls) : firstIn isFilled ls 0 ls.length = some d.before := by
  obtain ⟨first, rest, hbody, hfirst, -⟩ := h.body_ends
  have hlines := h.lines_eq
  rw [hbody, List.cons_append] at hlines
  exact firstIn_filled hlines hfirst

theorem lastIn_eq (h : d.Cuts ls) : lastIn isFilled ls 0 ls.length = some d.lastLine := by
  obtain ⟨first, rest, hbody, -, hlast⟩ := h.body_ends
  have hlines := h.lines_eq
  rw [hbody] at hlines
  rw [lastIn_filled hlines hlast, lastLine, hbody, List.length_replicate, List.length_cons,
    Nat.add_sub_cancel]

theorem slice_eq (h : d.Cuts ls) : slice ls d.before d.lastLine = d.body := by
  obtain ⟨first, rest, hbody, -, -⟩ := h.body_ends
  have hlines := h.lines_eq
  rw [hbody] at hlines
  rw [hbody]
  apply slice_of_split hlines List.length_replicate
  rw [lastLine, hbody, List.length_cons, Nat.add_sub_cancel]

theorem length_eq (h : d.Cuts ls) : ls.length = d.before + d.body.length + d.after := by
  have hlength := congrArg List.length h.lines_eq
  simp only [List.length_append, List.length_replicate] at hlength
  omega

theorem length_body_pos (h : d.Cuts ls) : 0 < d.body.length := by
  obtain ⟨first, rest, hbody, -, -⟩ := h.body_ends
  rw [hbody]
  exact Nat.succ_pos _

/-- The short part is the run of lines that hold something, where the description
starts. -/
theorem run_eq (h : d.Cuts ls) : (ls.drop d.before).takeWhile isFilled = d.short := by
  have hdrop : ls.drop d.before = d.short ++
      (List.replicate d.between [] ++ (d.long ++ List.replicate d.after [])) := by
    conv => lhs; rw [h.lines_eq]
    rw [List.drop_left' List.length_replicate, body, List.append_assoc, List.append_assoc]
  rw [hdrop]
  apply takeWhile_append_stop
  · intro line hline
    exact isFilled_of_ne_nil (h.short_filled line hline)
  · intro line hline
    have hempty : line ∈ List.replicate (d.between + d.after) [] := by
      rcases h.long with ⟨hlong, hbetween⟩ | ⟨hbetween, -⟩
      · rw [hlong, hbetween] at hline
        rw [hbetween, Nat.zero_add]
        exact List.mem_of_mem_head? hline
      · obtain ⟨n, hn⟩ := Nat.exists_eq_succ_of_ne_zero (Nat.ne_of_gt hbetween)
        rw [hn, List.replicate_succ] at hline
        cases hline
        rw [hn]
        simp
    exact isFilled_eq_false_of_mem_replicate hempty

theorem mem_of_mem_body {line : List Char} (h : d.Cuts ls) (hline : line ∈ d.body) :
    line ∈ ls := by
  rw [h.lines_eq]
  exact List.mem_append_right _ (List.mem_append_left _ hline)

/-- There is no long part just if the short part reaches to the last line. -/
theorem long_eq_nil_iff (h : d.Cuts ls) :
    d.long = [] ↔ d.before + d.short.length = d.lastLine + 1 := by
  have hpos := h.length_body_pos
  have hlength : d.body.length = d.short.length + d.between + d.long.length := by
    simp [body, Nat.add_assoc]
  rw [lastLine]
  rcases h.long with ⟨hlong, hbetween⟩ | ⟨hbetween, first, rest, hlong, -⟩
  · rw [hlong, hbetween] at hlength
    rw [List.length_nil] at hlength
    exact ⟨fun _ => by omega, fun _ => hlong⟩
  · constructor
    · intro hnil
      rw [hnil] at hlong
      cases hlong
    · intro heq
      omega

end Description.Cuts

/-! ## The lines before the tags -/

/-- The position of the first tag line, or the number of lines if there is none. -/
def tagStart (ls : List (List Char)) : Nat := ls.findIdx fun line => startsTag (trim line)

theorem tagStart_eq (ls : List (List Char)) : tagStart ls = ls.findIdx isTagLine := by
  unfold tagStart
  congr 1
  funext line
  rw [isTagLine_eq]

theorem tagStart_le_length (ls : List (List Char)) : tagStart ls ≤ ls.length :=
  List.findIdx_le_length

theorem tagStart_eq_length_iff :
    tagStart ls = ls.length ↔ ∀ line ∈ ls, startsTag (trim line) = false :=
  List.findIdx_eq_length

theorem startsTag_at_tagStart (h : tagStart ls < ls.length) :
    startsTag (trim (ls.getD (tagStart ls) [])) = true := by
  rw [List.getD_eq_getElem?_getD, List.getElem?_eq_getElem h, Option.getD_some]
  exact List.findIdx_getElem (p := fun line => startsTag (trim line))

theorem startsTag_before_tagStart {i : Nat} (h : i < tagStart ls) :
    startsTag (trim (ls.getD i [])) = false := by
  have hlt := Nat.lt_of_lt_of_le h (tagStart_le_length ls)
  rw [List.getD_eq_getElem?_getD, List.getElem?_eq_getElem hlt, Option.getD_some]
  exact List.not_of_lt_findIdx h

theorem findIdx?_isTagLine (ls : List (List Char)) : ls.findIdx? isTagLine =
    if tagStart ls < ls.length then some (tagStart ls) else none := by
  rw [List.findIdx?_eq_guard_findIdx_lt, ← tagStart_eq, Option.guard]
  simp

theorem descriptionLines_eq (ls : List (List Char)) :
    descriptionLines ls = ls.take (tagStart ls) := by
  rw [descriptionLines_eq_take, tagStart_eq, List.findIdx_eq_getD_findIdx?]

theorem startsTag_of_mem_take {line : List Char} (h : line ∈ ls.take (tagStart ls)) :
    startsTag (trim line) = false := by
  rw [← descriptionLines_eq, descriptionLines] at h
  have hnot := List.mem_takeWhile_imp h
  rw [isTagLine_eq] at hnot
  simpa using hnot

/-! ## What a comment says about its description -/

/-- The run of lines before the tags that hold something, from a position on. -/
def filledRun (ls : List (List Char)) (f : Nat) : List (List Char) :=
  ((ls.take (tagStart ls)).drop f).takeWhile Description.isFilled

namespace DocComment

variable {params : List ParamTag} {returnTag : Option ReturnTag} {c : DocComment}

/-- The comment without a description whose first tag is on a line. -/
def tagsOnly (start : Nat) (params : List ParamTag) (returnTag : Option ReturnTag)
    (endLine : Int) : DocComment :=
  { content := "", line := start, params := params, returnTag := returnTag, endLine := endLine }

/-- What a comment says about a description that reaches from line `f` to line `l`. -/
structure Describes (c : DocComment) (ls : List (List Char)) (f l : Nat) : Prop where
  line : c.line = f
  content : c.content = String.ofList (joinWith ['\n'] (Description.slice ls f l))
  content_lines : lines c.content.toList = Description.slice ls f l
  no_tag : ∀ line ∈ lines c.content.toList, startsTag (trim line) = false
  short : c.shortDescription = String.ofList (joinWith [' '] (filledRun ls f))
  /-- There is no long part just if the short part reaches to the last line. -/
  short_alone : c.longDescription = "" ↔ f + (filledRun ls f).length = l + 1
  no_gap : c.longDescription = "" → c.blankLinesBeforeLong = 0
  /-- The lines of the parts, and the empty ones between them, are all lines that
  there are. -/
  gap : c.longDescription ≠ "" → ∃ n : Nat, 1 ≤ n ∧ c.blankLinesBeforeLong = n ∧
    lines c.content.toList =
      filledRun ls f ++ List.replicate n [] ++ lines c.longDescription.toList ∧
    ∃ first rest, lines c.longDescription.toList = first :: rest ∧ first ≠ [] ∧
      (first :: rest).getLast (List.cons_ne_nil _ _) ≠ []
  untagged : c.blankLinesBeforeTags = none ↔ ∀ line ∈ ls, startsTag (trim line) = false
  tagged : ∀ n, c.blankLinesBeforeTags = some n →
    c.line + (lines c.content.toList).length + n = tagStart ls

/-- The comment with the parts of a description. -/
def ofDescription (d : Description) (ls : List (List Char)) (params : List ParamTag)
    (returnTag : Option ReturnTag) : DocComment :=
  { content := String.ofList (joinWith ['\n'] d.body)
    line := d.before
    shortDescription := String.ofList (joinWith [' '] d.short)
    longDescription := String.ofList (joinWith ['\n'] d.long)
    blankLinesBeforeLong := d.between
    blankLinesBeforeTags := if tagStart ls < ls.length then some (d.after : Int) else none
    params := params
    returnTag := returnTag
    endLine := (ls.length : Int) - 1 }

/-- The comment of some lines, by what stands before the tags. -/
theorem ofLines_eq (ls : List (List Char)) (params : List ParamTag)
    (returnTag : Option ReturnTag) : DocComment.ofLines ls params returnTag =
    if (Description.ofLines (ls.take (tagStart ls))).short = [] then
      if tagStart ls < ls.length then
        some (tagsOnly (tagStart ls) params returnTag ((ls.length : Int) - 1))
      else none
    else
      some (ofDescription (Description.ofLines (ls.take (tagStart ls))) ls params returnTag) := by
  have hstart : (ls.findIdx? isTagLine).getD ls.length = tagStart ls := by
    rw [tagStart_eq, List.findIdx_eq_getD_findIdx?]
  unfold DocComment.ofLines ofDescription
  simp only [hstart, List.isEmpty_iff]
  rw [findIdx?_isTagLine]
  by_cases htag : tagStart ls < ls.length
  · simp only [if_pos htag, Option.map_some]
    rfl
  · simp only [if_neg htag, Option.map_none]
    rfl

/-- Without a line before the tags that holds anything there are the tags only. -/
theorem ofLines_of_empty (h : ∀ line ∈ ls.take (tagStart ls), line = []) :
    DocComment.ofLines ls params returnTag =
      if tagStart ls < ls.length then
        some (tagsOnly (tagStart ls) params returnTag ((ls.length : Int) - 1))
      else none := by
  rw [ofLines_eq, if_pos]
  by_contra hshort
  obtain ⟨line, hline, hne⟩ :=
    Description.exists_filled (Bool.eq_false_iff.2 fun hnil => hshort (List.isEmpty_iff.1 hnil))
  exact hne (h line hline)

/-- Otherwise there are the parts of a description. -/
theorem ofLines_of_filled (h : ∃ line ∈ ls.take (tagStart ls), line ≠ []) :
    DocComment.ofLines ls params returnTag =
      some (ofDescription (Description.ofLines (ls.take (tagStart ls))) ls params returnTag) := by
  rw [ofLines_eq, if_neg (Description.cuts_ofLines h).short]

/-- A comment has the tags only, or the parts of a description. -/
theorem ofLines_cases (h : DocComment.ofLines ls params returnTag = some c) :
    ((∀ line ∈ ls.take (tagStart ls), line = []) ∧ tagStart ls < ls.length ∧
      c = tagsOnly (tagStart ls) params returnTag ((ls.length : Int) - 1)) ∨
    ∃ d : Description, d.Cuts (ls.take (tagStart ls)) ∧
      c = ofDescription d ls params returnTag := by
  by_cases hfilled : ∃ line ∈ ls.take (tagStart ls), line ≠ []
  · rw [ofLines_of_filled hfilled, Option.some.injEq] at h
    exact .inr ⟨_, Description.cuts_ofLines hfilled, h.symm⟩
  · have hempty : ∀ line ∈ ls.take (tagStart ls), line = [] := by
      simpa using hfilled
    rw [ofLines_of_empty hempty] at h
    split at h
    · next htag => exact .inl ⟨hempty, htag, (Option.some.inj h).symm⟩
    · cases h

section

variable (params returnTag) (hlines : ∀ line ∈ ls, '\n' ∉ line)
  (hcuts : d.Cuts (ls.take (tagStart ls)))

include hlines hcuts

theorem lineFeed_not_mem_body : ∀ line ∈ d.body, '\n' ∉ line := by
  intro line hline
  apply hlines line
  exact List.mem_of_mem_take (hcuts.mem_of_mem_body hline)

theorem lines_content : lines (ofDescription d ls params returnTag).content.toList = d.body := by
  have hcontent : (ofDescription d ls params returnTag).content.toList = joinWith ['\n'] d.body :=
    String.toList_ofList
  rw [hcontent]
  apply lines_joinWith
  · exact List.length_pos_iff.1 hcuts.length_body_pos
  · exact lineFeed_not_mem_body hlines hcuts

/-- The lines of the long part, if there is one. -/
theorem lines_longDescription (hlong : d.long ≠ []) :
    lines (ofDescription d ls params returnTag).longDescription.toList = d.long := by
  have hshown : (ofDescription d ls params returnTag).longDescription.toList =
      joinWith ['\n'] d.long := String.toList_ofList
  rw [hshown]
  apply lines_joinWith hlong
  intro line hline
  apply lineFeed_not_mem_body hlines hcuts
  rw [Description.body]
  exact List.mem_append_right _ hline

/-- The long part is shown just if there is one. -/
theorem longDescription_eq_empty_iff :
    (ofDescription d ls params returnTag).longDescription = "" ↔ d.long = [] := by
  rcases hcuts.long with ⟨hlong, -⟩ | ⟨-, first, rest, hlong, hfirst, -⟩
  · have hshown : (ofDescription d ls params returnTag).longDescription = "" := by
      rw [ofDescription, hlong]
      rfl
    exact ⟨fun _ => hlong, fun _ => hshown⟩
  · have hne : d.long ≠ [] := by
      rw [hlong]
      exact List.cons_ne_nil _ _
    constructor
    · intro hnil
      -- The only line of an empty text is empty.
      have hback := lines_longDescription params returnTag hlines hcuts hne
      rw [hnil, hlong] at hback
      cases hback
      exact absurd rfl hfirst
    · intro hnil
      exact absurd hnil hne

/-- What is said about a description, by the lines on which it starts and ends. -/
theorem describes_ofDescription :
    (ofDescription d ls params returnTag).Describes ls d.before d.lastLine := by
  have hle := tagStart_le_length ls
  have hpos := hcuts.length_body_pos
  have hlength := hcuts.length_eq
  rw [List.length_take, Nat.min_eq_left hle] at hlength
  have hcontent := lines_content params returnTag hlines hcuts
  have hlong := longDescription_eq_empty_iff params returnTag hlines hcuts
  have hrun : filledRun ls d.before = d.short := hcuts.run_eq
  have hslice : Description.slice ls d.before d.lastLine = d.body := by
    have hlast : d.lastLine + 1 ≤ tagStart ls := by
      unfold Description.lastLine
      omega
    rw [← hcuts.slice_eq, Description.slice, Description.slice, List.take_take,
      Nat.min_eq_left hlast]
  constructor
  case line => rfl
  case content =>
    rw [hslice]
    rfl
  case content_lines => rw [hslice, hcontent]
  case no_tag =>
    intro line hline
    rw [hcontent] at hline
    exact startsTag_of_mem_take (hcuts.mem_of_mem_body hline)
  case short =>
    rw [hrun]
    rfl
  case short_alone => rw [hlong, hrun, hcuts.long_eq_nil_iff]
  case no_gap =>
    intro hnil
    rcases hcuts.long with ⟨-, hbetween⟩ | ⟨-, first, rest, hcons, -⟩
    · rw [ofDescription, hbetween]
      rfl
    · rw [hlong.1 hnil] at hcons
      cases hcons
  case gap =>
    intro hne
    have hne' : d.long ≠ [] := fun hnil => hne (hlong.2 hnil)
    rcases hcuts.long with ⟨hnil, -⟩ | ⟨hbetween, first, rest, hcons, hends⟩
    · exact absurd hnil hne'
    · refine ⟨d.between, hbetween, rfl, ?_, first, rest, ?_, hends⟩
      · rw [hcontent, hrun, lines_longDescription params returnTag hlines hcuts hne']
        rfl
      · rw [lines_longDescription params returnTag hlines hcuts hne', hcons]
  case untagged =>
    rw [← tagStart_eq_length_iff, ofDescription]
    by_cases htag : tagStart ls < ls.length
    · simp [htag, Nat.ne_of_lt htag]
    · simp [Nat.le_antisymm hle (Nat.le_of_not_lt htag)]
  case tagged =>
    intro n hn
    rw [hcontent]
    by_cases htag : tagStart ls < ls.length
    · rw [ofDescription, if_pos htag, Option.some.injEq] at hn
      rw [← hn, hlength]
      simp [ofDescription]
    · rw [ofDescription, if_neg htag] at hn
      cases hn

end

end DocComment

/-! ## What is read from a docstring -/

/-- What a reader finds about the description in some lines. -/
structure DescriptionRead (ls : List (List Char)) (r : Reading) : Prop where
  none_iff : r.comment = none ↔
    (∀ line ∈ ls, startsTag (trim line) = false) ∧ ∀ line ∈ ls, line = []
  /-- The description reaches from the first line that holds something to the last
  one before the tags. -/
  described : (∃ line ∈ ls.take (tagStart ls), line ≠ []) → ∃ c f l, r.comment = some c ∧
    firstIn Description.isFilled ls 0 (tagStart ls) = some f ∧
    lastIn Description.isFilled ls 0 (tagStart ls) = some l ∧ c.Describes ls f l
  undescribed : (∀ line ∈ ls.take (tagStart ls), line = []) → tagStart ls < ls.length →
    r.comment = some (.tagsOnly (tagStart ls) r.params r.returnTag (ls.length - 1))

theorem Reader.readLines_descriptionRead (hlines : ∀ line ∈ ls, '\n' ∉ line) :
    DescriptionRead ls (readLines {} ls) where
  none_iff := by
    rw [← tagStart_eq_length_iff]
    by_cases hfilled : ∃ line ∈ ls.take (tagStart ls), line ≠ []
    · rw [readLines, DocComment.ofLines_of_filled hfilled]
      obtain ⟨line, hline, hne⟩ := hfilled
      constructor
      · intro hnone
        cases hnone
      · rintro ⟨-, hempty⟩
        exact absurd (hempty line (List.mem_of_mem_take hline)) hne
    · have hempty : ∀ line ∈ ls.take (tagStart ls), line = [] := by
        simpa using hfilled
      have hle := tagStart_le_length ls
      rw [readLines, DocComment.ofLines_of_empty hempty]
      by_cases htag : tagStart ls < ls.length
      · simp [htag, Nat.ne_of_lt htag]
      · have hall : tagStart ls = ls.length := Nat.le_antisymm hle (Nat.le_of_not_lt htag)
        rw [hall, List.take_length] at hempty
        simp only [if_neg htag, true_iff]
        exact ⟨hall, hempty⟩
  described := by
    intro hfilled
    have hcuts := Description.cuts_ofLines hfilled
    have hle := tagStart_le_length ls
    have hlength : (ls.take (tagStart ls)).length = tagStart ls := by
      rw [List.length_take, Nat.min_eq_left hle]
    have hfirst := hcuts.firstIn_eq
    have hlast := hcuts.lastIn_eq
    rw [hlength, firstIn_take (Nat.le_refl _)] at hfirst
    rw [hlength, lastIn_take (Nat.le_refl _)] at hlast
    exact ⟨_, _, _, DocComment.ofLines_of_filled hfilled, hfirst, hlast,
      DocComment.describes_ofDescription _ _ hlines hcuts⟩
  undescribed := by
    intro hempty htag
    rw [readLines, DocComment.ofLines_of_empty hempty, if_pos htag]

/-- The description that is read from a docstring, by its dedented lines: none of
them gets lost. -/
theorem docstringReader_description {lexicon : Literal.Lexicon} (text : String) (value : List Char)
    (hvalue : Literal.readText lexicon text = .ok value) :
    ∃ r, docstringReader lexicon text = .ok r ∧ DescriptionRead (dedent (lines value)) r := by
  refine ⟨_, docstringReader_eq hvalue, ?_⟩
  apply Reader.readLines_descriptionRead
  intro line hline
  exact lineFeed_not_mem_dedent hline

/-- A comment that starts after an empty line, with a line of blanks and an empty one
before its long part, and three such lines before the tag. -/
def describedLines : List (List Char) :=
  [[], "  Adds".toList, "    two.".toList, "   ".toList, [], "  Not".toList, [],
    "  three.".toList, [], "  ".toList, [], "  @return: More.".toList, "  ".toList]

theorem describedLines_description : ∃ r c,
    docstringReader .small (tripleQuoted describedLines) = .ok r ∧
    r.comment = some c ∧ c.Describes (dedent describedLines) 1 7 ∧
    c.shortDescription = "Adds   two." ∧ c.longDescription ≠ "" := by
  have hall : describedLines.all (fun l => l.all isPlain) = true := by decide
  have hplain : ∀ l ∈ describedLines, ∀ c ∈ l, isPlain c = true := fun l hl =>
    List.all_eq_true.1 (List.all_eq_true.1 hall l hl)
  have hlines : lines (joinWith ['\n'] describedLines) = describedLines :=
    lines_joinWith (by decide) fun l hl => not_mem_of_isPlain (hplain l hl) (by decide)
  obtain ⟨r, hr, hread⟩ := docstringReader_description _ _ (readText_triple hplain)
  rw [hlines] at hread
  obtain ⟨c, f, l, hc, hf, hl, hdescribes⟩ := hread.described (by decide)
  obtain rfl : 1 = f := Option.some.inj (Eq.trans (by decide) hf)
  obtain rfl : 7 = l := Option.some.inj (Eq.trans (by decide) hl)
  refine ⟨r, c, hr, hc, hdescribes, hdescribes.short.trans (by decide), ?_⟩
  intro hnil
  exact absurd (hdescribes.short_alone.1 hnil) (by decide)

end DocLint
