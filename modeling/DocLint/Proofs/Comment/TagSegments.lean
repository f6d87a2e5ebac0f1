import DocLint.Proofs.Comment.Dedent
import DocLint.Proofs.Comment.Description
import DocLint.Proofs.Comment.Written

/-!
# Where the tags of a comment are, line by line

The tags of a comment can be told from its lines, once these are trimmed. A line
that starts a tag gives it its name; the lines up to the next such line continue
its text, unless they are empty. What a reader finds are the tags about
parameters, in order, and the first tag about the returned value.

Results:
* `Tag.ofLines_eq`: the tags, by the lines on which they start.
* `TagsRead`: what is read from some lines.
* `Tag.filter_isKnown_ofLines`: a tag about something else counts as empty lines.
* `docstringReader_tags`: what is read from a docstring.
-/
namespace DocLint

open Text

variable {line : List Char} {ls after : List (List Char)}

/-! ## The lines of a tag -/

def paramTagNames : List String := ["param", "parameter", "arg", "argument"]

def returnTagNames : List String := ["return", "returns"]

/-- Whether a line starts a tag: with a mark and an ASCII letter. -/
def startsTag : List Char → Bool
  | mark :: letter :: _ => (mark == '@' || mark == ':') && isAsciiLetter letter
  | _ => false

/-- The name of the tag that a line starts, in lower case: the letter and the word
characters after it. -/
def tagName (line : List Char) : List Char :=
  lower ((line.drop 1).take 1 ++ (line.drop 2).takeWhile isWord)

/-- What stands on the line after the name. -/
def tagRest (line : List Char) : List Char := (line.drop 2).dropWhile isWord

/-- The lines that start a tag with one of some names, counted from zero. -/
def tagsNamed (names : List String) (ls : List (List Char)) : List Nat :=
  (List.range ls.length).filter fun i =>
    startsTag (ls.getD i []) && names.contains (String.ofList (tagName (ls.getD i [])))

/-- The parts of the tag that starts on a line: what stands on that line after the
name, and each line before the next tag that is not empty. -/
def tagParts (ls : List (List Char)) (i : Nat) : List (List Char) :=
  tagRest (ls.getD i []) ::
    ((ls.drop (i + 1)).takeWhile fun line => !startsTag line).filter fun line => !line.isEmpty

/-- The text of the tag that starts on a line. -/
def tagText (ls : List (List Char)) (i : Nat) : List Char := joinWith [' '] (tagParts ls i)

/-- The lines of a tag that is about something else. -/
def IsOtherTag : List (List Char) → Prop
  | [] => False
  | first :: rest => startsTag first = true ∧
      String.ofList (tagName first) ∉ paramTagNames ++ returnTagNames ∧
      ∀ line ∈ rest, startsTag line = false

theorem TagLine.ofLine?_eq (line : List Char) : TagLine.ofLine? line =
    if startsTag (trim line) then some ⟨tagName (trim line), tagRest (trim line)⟩ else none := by
  unfold TagLine.ofLine?
  match trim line with
  | [] => rfl
  | [mark] => rfl
  | mark :: letter :: rest => simp [startsTag, tagName, tagRest]

theorem isTagLine_eq (line : List Char) : isTagLine line = startsTag (trim line) := by
  rw [isTagLine, TagLine.ofLine?_eq]
  cases startsTag (trim line) <;> rfl

namespace Tag

theorem continuation_eq (after : List (List Char)) : continuation after =
    ((after.map trim).takeWhile fun line => !startsTag line).filter fun line => !line.isEmpty := by
  rw [continuation, List.takeWhile_map]
  simp only [isTagLine_eq]
  rfl

/-- The tag that starts on a line, given lines that were trimmed. -/
def startingAt (number : Nat) (ls : List (List Char)) (i : Nat) : Tag :=
  { name := tagName (ls.getD i []), line := number + i, parts := tagParts ls i }

/-- The tags, by the lines on which they start. -/
theorem ofLines_eq (number : Nat) (ls : List (List Char)) : ofLines number ls =
    ((List.range ls.length).filter fun i => startsTag ((ls.map trim).getD i [])).map
      (startingAt number (ls.map trim)) := by
  induction ls generalizing number with
  | nil => rfl
  | cons line after ih =>
    -- The line after the first one is the first one of the rest.
    have hshift : startingAt number ((line :: after).map trim) ∘ Nat.succ =
        startingAt (number + 1) (after.map trim) := by
      funext i
      simp [startingAt, tagParts]
      omega
    have hafter : ((List.range after.length).map Nat.succ).filter
        (fun i => startsTag (((line :: after).map trim).getD i [])) =
        ((List.range after.length).filter fun i =>
          startsTag ((after.map trim).getD i [])).map Nat.succ := by
      rw [List.filter_map]
      rfl
    have hfirst : startingAt number ((line :: after).map trim) 0 =
        { name := tagName (trim line), line := number
          parts := tagRest (trim line) :: continuation after } := by
      rw [continuation_eq]
      rfl
    have hzero : ((line :: after).map trim).getD 0 [] = trim line := rfl
    rw [List.length_cons, List.range_succ_eq_map, List.filter_cons, hafter, hzero, ofLines,
      TagLine.ofLine?_eq]
    cases startsTag (trim line) with
    | false =>
      rw [if_neg Bool.false_ne_true, if_neg Bool.false_ne_true, List.map_map, hshift]
      exact ih (number + 1)
    | true =>
      rw [if_pos rfl, if_pos rfl, List.map_cons, hfirst, List.map_map, hshift, ← ih]

/-- Blanks at the ends of lines make no difference. -/
theorem ofLines_map_trim (number : Nat) (ls : List (List Char)) :
    ofLines number (ls.map trim) = ofLines number ls := by
  have htrim : (ls.map trim).map trim = ls.map trim := by
    rw [List.map_map]
    exact List.map_congr_left fun l _ => trim_trim l
  rw [ofLines_eq, ofLines_eq, htrim, List.length_map]

theorem filter_ofLines (names : List String) (ls : List (List Char)) :
    ((ofLines 0 ls).filter fun tag => names.contains (String.ofList tag.name)) =
      (tagsNamed names (ls.map trim)).map (startingAt 0 (ls.map trim)) := by
  rw [ofLines_eq, List.filter_map, List.filter_filter, tagsNamed, List.length_map]
  simp only [Bool.and_comm]
  rfl

end Tag

/-! ## What is read from some lines -/

/-- What a reader finds in lines that were trimmed. -/
structure TagsRead (ls : List (List Char)) (r : Reading) : Prop where
  /-- There is a tag for each line that starts one about a parameter, in order. -/
  params : r.params = (tagsNamed paramTagNames ls).map fun i => ParamTag.ofText (tagText ls i) i
  /-- The first tag about the returned value counts. Its text has no colons before it. -/
  returnTag : r.returnTag = (tagsNamed returnTagNames ls).head?.map fun i =>
    { value := String.ofList (trim ((trim (tagText ls i)).dropWhile (· == ':'))), line := i }
  /-- No line from the first tag on is in the description. -/
  description : ∀ c, r.comment = some c → ∃ d : Description,
    (∀ line ∈ d.body, trim line ∈ ls.takeWhile fun line => !startsTag line) ∧
    c.content = String.ofList (joinWith ['\n'] d.body) ∧
    c.shortDescription = String.ofList (joinWith [' '] d.short) ∧
    c.longDescription = String.ofList (joinWith ['\n'] d.long)

def descriptionLines (ls : List (List Char)) : List (List Char) :=
  ls.takeWhile fun line => !isTagLine line

theorem descriptionLines_eq_take (ls : List (List Char)) :
    descriptionLines ls = ls.take ((ls.findIdx? isTagLine).getD ls.length) := by
  simp only [descriptionLines, List.takeWhile_eq_take_findIdx_not, Bool.not_not,
    List.findIdx_eq_getD_findIdx?]

theorem map_trim_descriptionLines (ls : List (List Char)) : (descriptionLines ls).map trim =
    (ls.map trim).takeWhile fun line => !startsTag line := by
  rw [descriptionLines, List.takeWhile_map]
  simp only [isTagLine_eq]
  rfl

/-- The description of a comment is cut out of the lines before the first tag. -/
theorem DocComment.description_of_ofLines {params : List ParamTag} {returnTag : Option ReturnTag}
    {c : DocComment} (h : DocComment.ofLines ls params returnTag = some c) :
    ∃ d : Description, (∀ line ∈ d.body, line ∈ descriptionLines ls) ∧
      c.content = String.ofList (joinWith ['\n'] d.body) ∧
      c.shortDescription = String.ofList (joinWith [' '] d.short) ∧
      c.longDescription = String.ofList (joinWith ['\n'] d.long) := by
  unfold DocComment.ofLines at h
  simp only [← descriptionLines_eq_take] at h
  split at h
  · obtain ⟨start, -, rfl⟩ := Option.map_eq_some_iff.1 h
    exact ⟨⟨0, [], 0, [], 0⟩, by simp [Description.body], rfl, rfl, rfl⟩
  · obtain rfl := Option.some.inj h
    exact ⟨_, fun line => Description.mem_of_mem_body, rfl, rfl, rfl⟩

theorem Reader.readLines_tagsRead (ls : List (List Char)) :
    TagsRead (ls.map trim) (readLines {} ls) where
  params := by
    have htags : (Tag.ofLines 0 ls).filter Tag.isParam =
        (tagsNamed paramTagNames (ls.map trim)).map (Tag.startingAt 0 (ls.map trim)) :=
      Tag.filter_ofLines paramTagNames ls
    simp only [readLines, htags, List.nil_append, List.map_map]
    exact List.map_congr_left fun i _ => by
      simp [Tag.startingAt, Tag.text, tagText]
  returnTag := by
    have htags : (Tag.ofLines 0 ls).find? Tag.isReturn =
        (tagsNamed returnTagNames (ls.map trim)).head?.map (Tag.startingAt 0 (ls.map trim)) := by
      rw [← List.head?_filter, ← List.head?_map, ← Tag.filter_ofLines]
      rfl
    simp only [readLines, htags, Option.none_or, Option.map_map]
    congr 1
    funext i
    simp [Tag.startingAt, Tag.text, tagText, ReturnTag.ofText]
  description := by
    intro c hc
    obtain ⟨d, hbody, hshown⟩ := DocComment.description_of_ofLines hc
    refine ⟨d, fun line hline => ?_, hshown⟩
    rw [← map_trim_descriptionLines]
    exact List.mem_map_of_mem (hbody line hline)

/-! ## Tags about something else -/

namespace Tag

variable {first : List Char} {rest before : List (List Char)} {number : Nat}

def isKnown (tag : Tag) : Bool := tag.isParam || tag.isReturn

theorem continuation_cons_of_not_isTagLine (h : isTagLine line = false)
    (after : List (List Char)) : continuation (line :: after) =
      ([trim line].filter fun line => !line.isEmpty) ++ continuation after := by
  rw [continuation, List.takeWhile_cons_of_pos (by simp [h]), List.map_cons,
    ← List.singleton_append, List.filter_append]
  rfl

theorem continuation_replicate (hafter : ∀ line ∈ after.head?, isTagLine line = true) (n : Nat) :
    continuation (List.replicate n [] ++ after) = [] := by
  induction n with
  | zero =>
    cases after with
    | nil => rfl
    | cons line after => exact continuation_cons (hafter line rfl)
  | succ n ih =>
    rw [List.replicate_succ, List.cons_append, continuation_cons_of_not_isTagLine rfl, ih]
    rfl

/-- A tag ends where another one starts, so it may as well run on into empty lines. -/
theorem continuation_other (hfirst : isTagLine first = true)
    (hafter : ∀ line ∈ after.head?, isTagLine line = true) :
    continuation (before ++ first :: (rest ++ after)) =
      continuation (before ++ (List.replicate (rest.length + 1) [] ++ after)) := by
  induction before with
  | nil =>
    rw [List.nil_append, List.nil_append, continuation_replicate hafter, continuation_cons hfirst]
  | cons line before ih =>
    rw [List.cons_append, List.cons_append]
    cases hline : isTagLine line with
    | true => rw [continuation_cons hline, continuation_cons hline]
    | false => simp only [continuation_cons_of_not_isTagLine hline, ih]

/-- Lines that start no tag are passed over. -/
theorem ofLines_append (h : ∀ line ∈ before, isTagLine line = false) :
    ofLines number (before ++ after) = ofLines (number + before.length) after := by
  induction before generalizing number with
  | nil => rfl
  | cons line before ih =>
    have hline : TagLine.ofLine? line = none := by
      simpa [isTagLine] using h line (List.mem_cons_self ..)
    rw [List.cons_append, ofLines, hline, List.length_cons, Nat.add_comm before.length 1,
      ← Nat.add_assoc]
    exact ih fun line hline => h line (List.mem_cons_of_mem _ hline)

/-- A tag about something else counts as empty lines. -/
theorem filter_isKnown_ofLines {tag : TagLine} (htag : TagLine.ofLine? first = some tag)
    (hname : String.ofList tag.name ∉ paramTagNames ++ returnTagNames)
    (hrest : ∀ line ∈ rest, isTagLine line = false)
    (hafter : ∀ line ∈ after.head?, isTagLine line = true) :
    (ofLines number (before ++ first :: (rest ++ after))).filter isKnown =
      (ofLines number (before ++ (List.replicate (rest.length + 1) [] ++ after))).filter
        isKnown := by
  have hfirst : isTagLine first = true := by rw [isTagLine, htag]; rfl
  induction before generalizing number with
  | nil =>
    have hother : ∀ parts, isKnown ⟨tag.name, number, parts⟩ = false := fun parts => by
      simpa [isKnown, isParam, isReturn, paramTagNames, returnTagNames, and_assoc] using hname
    have hempty : ∀ line ∈ List.replicate (rest.length + 1) [], isTagLine line = false :=
      fun line hline => by
        rw [List.eq_of_mem_replicate hline]
        rfl
    rw [List.nil_append, List.nil_append, ofLines, htag, ofLines_append hempty,
      List.length_replicate]
    simp only
    rw [List.filter_cons_of_neg (by simp [hother]), ofLines_append hrest, Nat.add_assoc,
      Nat.add_comm 1]
  | cons line before ih =>
    rw [List.cons_append, List.cons_append, ofLines, ofLines, continuation_other hfirst hafter]
    cases TagLine.ofLine? line with
    | none => exact ih
    | some found =>
      simp only [List.filter_cons, ih]

end Tag

/-- What is read depends on the known tags only. -/
theorem Reader.readLines_congr {ls' : List (List Char)}
    (h : (Tag.ofLines 0 ls).filter Tag.isKnown = (Tag.ofLines 0 ls').filter Tag.isKnown) :
    (readLines {} ls).params = (readLines {} ls').params ∧
      (readLines {} ls).returnTag = (readLines {} ls').returnTag := by
  have hparam : ∀ tags : List Tag, (tags.filter Tag.isKnown).filter Tag.isParam =
      tags.filter Tag.isParam := fun tags => by
    rw [List.filter_filter]
    congr 1
    funext tag
    cases htag : tag.isParam <;> simp [Tag.isKnown, htag]
  have hreturn : ∀ tags : List Tag, (tags.filter Tag.isKnown).find? Tag.isReturn =
      tags.find? Tag.isReturn := fun tags => by
    rw [List.find?_filter]
    congr 1
    funext tag
    cases htag : tag.isReturn <;> simp [Tag.isKnown, htag]
  simp only [readLines]
  rw [← hparam, h, hparam, ← hreturn, h, hreturn]
  exact ⟨rfl, rfl⟩

/-- Empty lines in place of a tag about something else, up to the next tag. -/
inductive Blanked : List (List Char) → List (List Char) → Prop
  | other (before tag after : List (List Char)) (htag : IsOtherTag tag)
    (hafter : ∀ line ∈ after.head?, startsTag line = true) :
    Blanked (before ++ tag ++ after) (before ++ List.replicate tag.length [] ++ after)

theorem Blanked.filter_isKnown {ls' : List (List Char)} (h : Blanked ls ls')
    (htrim : ∀ line ∈ ls, trim line = line) :
    (Tag.ofLines 0 ls).filter Tag.isKnown = (Tag.ofLines 0 ls').filter Tag.isKnown := by
  obtain ⟨before, tag, after, htag, hafter⟩ := h
  cases tag with
  | nil => exact htag.elim
  | cons first rest =>
    obtain ⟨hstart, hname, hrest⟩ := htag
    have hfirst : TagLine.ofLine? first = some ⟨tagName first, tagRest first⟩ := by
      rw [TagLine.ofLine?_eq, htrim first (by simp), if_pos hstart]
    rw [List.append_assoc, List.append_assoc, List.cons_append, List.length_cons]
    refine Tag.filter_isKnown_ofLines hfirst hname (fun line hline => ?_) fun line hline => ?_
    · rw [isTagLine_eq, htrim line (by simp [hline]), hrest line hline]
    · rw [isTagLine_eq, htrim line (by simp [List.mem_of_mem_head? hline]), hafter line hline]

/-- What is read from a docstring: the tags about parameters and the first one about
the returned value, by the lines of the text that it stands for. A tag about
something else may as well be empty lines. -/
theorem docstringReader_tags {lexicon : Literal.Lexicon} (text : String) (value : List Char)
    (hvalue : Literal.readText lexicon text = .ok value) :
    ∃ r, docstringReader lexicon text = .ok r ∧ TagsRead ((lines value).map trim) r ∧
      ∀ (text' : String) (value' : List Char) (r' : Reading),
        Literal.readText lexicon text' = .ok value' →
        Blanked ((lines value).map trim) ((lines value').map trim) →
        docstringReader lexicon text' = .ok r' →
          r'.params = r.params ∧ r'.returnTag = r.returnTag := by
  refine ⟨_, docstringReader_eq hvalue, ?_, fun text' value' r' hvalue' hblanked hr' => ?_⟩
  · rw [← map_trim_dedent]
    exact Reader.readLines_tagsRead _
  · rw [docstringReader_eq hvalue', Except.ok.injEq] at hr'
    have hsame : (Tag.ofLines 0 (dedent (lines value))).filter Tag.isKnown =
        (Tag.ofLines 0 (dedent (lines value'))).filter Tag.isKnown := by
      rw [← Tag.ofLines_map_trim, ← Tag.ofLines_map_trim 0 (dedent (lines value')),
        map_trim_dedent, map_trim_dedent]
      exact hblanked.filter_isKnown fun line hline => by
        obtain ⟨l, -, rfl⟩ := List.mem_map.1 hline
        exact trim_trim l
    obtain ⟨hparams, hreturn⟩ := Reader.readLines_congr hsame
    rw [← hr']
    exact ⟨hparams.symm, hreturn.symm⟩

/-- A comment with one tag about a parameter, one about something else, and two about
the returned value. -/
def segmentedLines : List (List Char) :=
  ["Adds.".toList, [], "@param n: One".toList, "    and more.".toList, "@raises E: No".toList,
    "  reason.".toList, " :Return: a sum".toList, [], "  of two.".toList, "@return: More.".toList]

/-- The same without what the tag about something else says. -/
def blankedLines : List (List Char) :=
  ["Adds.".toList, [], "@param n: One".toList, "    and more.".toList, [], [],
    " :Return: a sum".toList, [], "  of two.".toList, "@return: More.".toList]

/-- What is read from that comment, with the tag about something else and without. -/
theorem segmentedLines_tags : ∃ r, docstringReader .small (tripleQuoted segmentedLines) = .ok r ∧
    r.params = [{ name := "n", comment := "One and more.", line := 2 }] ∧
    r.returnTag = some { value := "a sum of two.", line := 6 } ∧
    ∀ r', docstringReader .small (tripleQuoted blankedLines) = .ok r' →
      r'.params = r.params ∧ r'.returnTag = r.returnTag := by
  have hall : (segmentedLines ++ blankedLines).all (fun l => l.all isPlain) = true := by decide
  have hplain : ∀ l ∈ segmentedLines, ∀ c ∈ l, isPlain c = true := fun l hl =>
    List.all_eq_true.1 (List.all_eq_true.1 hall l (List.mem_append_left _ hl))
  have hplain' : ∀ l ∈ blankedLines, ∀ c ∈ l, isPlain c = true := fun l hl =>
    List.all_eq_true.1 (List.all_eq_true.1 hall l (List.mem_append_right _ hl))
  have hlines : lines (joinWith ['\n'] segmentedLines) = segmentedLines :=
    lines_joinWith (by decide) fun l hl => not_mem_of_isPlain (hplain l hl) (by decide)
  have hlines' : lines (joinWith ['\n'] blankedLines) = blankedLines :=
    lines_joinWith (by decide) fun l hl => not_mem_of_isPlain (hplain' l hl) (by decide)
  obtain ⟨r, hr, htags, hblanked⟩ := docstringReader_tags _ _ (readText_triple hplain)
  rw [hlines] at htags hblanked
  refine ⟨r, hr, htags.params.trans (by decide), htags.returnTag.trans (by decide),
    fun r' hr' => hblanked _ _ r' (readText_triple hplain') ?_ hr'⟩
  rw [hlines']
  exact .other ((segmentedLines.map trim).take 4) (((segmentedLines.map trim).drop 4).take 2)
    ((segmentedLines.map trim).drop 6) ⟨by decide, by decide, by decide⟩ (by decide)

end DocLint
