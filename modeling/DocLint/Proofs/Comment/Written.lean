import DocLint.Comment.Reader
import DocLint.Proofs.Comment.ParamText
import DocLint.Proofs.Literal.Quoted

/-!
# Reading a comment that was written in full

A comment in the usual form: a summary, a tag for each parameter and a tag for
the returned value, on lines of their own and indented alike, between three
quotes. Reading it gives back what was written, but for blanks at the ends.

Results:
* `tokenLines_triple`: the lines of a literal between three quotes.
* `dedent_padded`: the indentation that was put in is taken out.
* `Tag.ofLines_tagLines`: the tags.
* `FullComment.docstringReader_text`: the whole comment.
-/
namespace DocLint

open Text

/-! ## Plain text between three quotes -/

/-- Whether a character stands for itself between quotes, and on its line. -/
def isPlain (c : Char) : Bool := !(['\n', '\r', '\x00', '\\', '"'].contains c)

theorem ne_of_isPlain {c d : Char} (h : isPlain c = true) (hd : isPlain d = false) : c ≠ d := by
  rintro rfl
  rw [h] at hd
  cases hd

theorem not_mem_of_isPlain {text : List Char} (h : ∀ c ∈ text, isPlain c = true) {d : Char}
    (hd : isPlain d = false) : d ∉ text := fun hmem => ne_of_isPlain (h d hmem) hd rfl

theorem isPlain_of_isWord {c : Char} (h : isWord c = true) : isPlain c = true := by
  have hall : ∀ d ∈ ['\n', '\r', '\x00', '\\', '"'], (!isWord d) = true :=
    List.all_eq_true.1 (by decide)
  rw [isPlain, Bool.not_eq_true', ← Bool.not_eq_true, List.contains_iff_mem]
  intro hmem
  have := hall c hmem
  rw [h] at this
  cases this

/-- The source text of lines between three quotes. -/
def tripleQuoted (lines : List (List Char)) : String :=
  String.ofList ('"' :: '"' :: '"' :: (joinWith ['\n'] lines ++ ['"', '"', '"']))

variable {lexicon : Literal.Lexicon}

theorem readText_triple {ls : List (List Char)} (h : ∀ l ∈ ls, ∀ c ∈ l, isPlain c = true) :
    Literal.readText lexicon (tripleQuoted ls) = .ok (joinWith ['\n'] ls) := by
  have hbody : ∀ d, isPlain d = false → d ≠ '\n' → d ∉ joinWith ['\n'] ls := by
    intro d hd hline hmem
    rcases mem_joinWith hmem with h' | ⟨l, hl, hc⟩
    · exact hline (List.mem_singleton.1 h')
    · exact not_mem_of_isPlain (h l hl) hd hc
  refine Literal.readText_quoted [] '"' _ (joinWith ['\n'] ls) (by decide) (by decide) ?_ ?_ ?_
  · simpa using hbody '\x00' (by decide) (by decide)
  · rw [Literal.normalizeLineEnds_of_not_mem
      (by simpa using hbody '\r' (by decide) (by decide)), Literal.closeQuote, if_pos ⟨rfl, rfl⟩]
    exact Literal.closeTriple_append '"' _ [] (hbody '"' (by decide) (by decide))
      (hbody '\\' (by decide) (by decide)) (by decide)
  · rw [Literal.isRaw]
    simp [Literal.QuoteFlags.quotation?, Literal.unescape_of_no_backslash lexicon _
      (hbody '\\' (by decide) (by decide))]

theorem tokenLines_triple {ls : List (List Char)} (hne : ls ≠ [])
    (h : ∀ l ∈ ls, ∀ c ∈ l, isPlain c = true) :
    Reader.tokenLines lexicon (tripleQuoted ls) = .ok (dedent ls) := by
  have hlines : lines (joinWith ['\n'] ls) = ls :=
    lines_joinWith hne fun l hl => not_mem_of_isPlain (h l hl) (by decide)
  simp only [Reader.tokenLines, readText_triple h, hlines, bind, Except.bind, pure, Except.pure]

/-! ## The indentation -/

/-- A line that starts with something that is not blank. -/
def StartsFilled (line : List Char) : Prop := ∃ c rest, line = c :: rest ∧ isBlank c = false

/-- A line with `n` spaces before it, unless it is empty. -/
def padded (n : Nat) (line : List Char) : List Char :=
  if line.isEmpty then [] else List.replicate n ' ' ++ line

theorem margin_of_indent {rest : List (List Char)} {n : Nat}
    (h : ∀ line ∈ rest, line = [] ∨ indent line = n) (hne : ∃ line ∈ rest, line ≠ []) :
    margin rest = n := by
  obtain ⟨line, hmem, hline⟩ := hne
  have hn : ∀ line ∈ rest.filter fun line => !line.isEmpty, indent line = n := by
    intro line hline
    rw [List.mem_filter] at hline
    rcases h line hline.1 with rfl | hindent
    · cases hline.2
    · exact hindent
  have hmin : ((rest.filter fun line => !line.isEmpty).map indent).min? = some n := by
    rw [List.min?_eq_some_iff]
    refine ⟨?_, ?_⟩
    · have hmem' : line ∈ rest.filter fun line => !line.isEmpty := by simp [hmem, hline]
      exact List.mem_map.2 ⟨line, hmem', hn line hmem'⟩
    · rintro b hb
      obtain ⟨other, hother, rfl⟩ := List.mem_map.1 hb
      rw [hn other hother]
  rw [margin, hmin, Option.getD_some]

theorem indent_padded {n : Nat} {line : List Char} (h : StartsFilled line) :
    indent (List.replicate n ' ' ++ line) = n := by
  obtain ⟨c, rest, rfl, hc⟩ := h
  have hspace : isBlank ' ' = true := by decide
  rw [indent, List.takeWhile_append_of_pos fun d hd => List.eq_of_mem_replicate hd ▸ hspace,
    List.takeWhile_cons_of_neg (by simp [hc])]
  simp

theorem dedent_padded (n closing : Nat) {body : List (List Char)}
    (h : ∀ line ∈ body, line = [] ∨ StartsFilled line) (hne : ∃ line ∈ body, line ≠ []) :
    dedent ([] :: (body.map (padded n) ++ [List.replicate closing ' '])) =
      [] :: (body.map trimRight ++ [[]]) := by
  have htrim : ∀ line ∈ body, trimRight (padded n line) = [] ∧ trimRight line = [] ∨
      trimRight (padded n line) = List.replicate n ' ' ++ trimRight line ∧
        StartsFilled (trimRight line) := by
    intro line hline
    rcases h line hline with rfl | ⟨c, rest, rfl, hc⟩
    · exact .inl ⟨rfl, rfl⟩
    · exact .inr ⟨by rw [trimRight_cons hc, ← trimRight_append_cons hc]; rfl, c, trimRight rest,
        trimRight_cons hc, hc⟩
  have hlast : trimRight (List.replicate closing ' ') = [] :=
    trimRight_of_blank fun c hc => by rw [List.eq_of_mem_replicate hc]; decide
  have hmargin : margin ((body.map fun line => trimRight (padded n line)) ++ [[]]) = n := by
    refine margin_of_indent (fun line hline => ?_) ?_
    · rw [List.mem_append, List.mem_map, List.mem_singleton] at hline
      rcases hline with ⟨line, hmem, rfl⟩ | rfl
      · rcases htrim line hmem with ⟨hnil, -⟩ | ⟨hline, hfilled⟩
        · exact .inl hnil
        · exact .inr (hline ▸ indent_padded hfilled)
      · exact .inl rfl
    · obtain ⟨line, hmem, hline⟩ := hne
      refine ⟨trimRight (padded n line), by simpa using .inl ⟨line, hmem, rfl⟩, ?_⟩
      obtain ⟨c, rest, rfl, hc⟩ := (h line hmem).resolve_left hline
      rw [padded, if_neg (by simp), trimRight_append_cons hc]
      simp
  have hdrop : ∀ line ∈ body, (trimRight (padded n line)).drop n = trimRight line := by
    intro line hline
    rcases htrim line hline with ⟨hnil, hnil'⟩ | ⟨hpadded, -⟩
    · rw [hnil, hnil', List.drop_nil]
    · rw [hpadded, List.drop_left' List.length_replicate]
  unfold dedent
  simp only [List.map_cons, List.map_append, List.map_map, hlast, List.map_nil, Function.comp_def,
    trimRight_nil, trimLeft_nil, List.drop_nil]
  rw [hmargin, List.map_congr_left hdrop]

/-! ## The tag lines -/

/-- A tag line has no lines to continue it if another tag line follows. -/
theorem Tag.continuation_cons {line : List Char} {after : List (List Char)}
    (h : isTagLine line = true) : continuation (line :: after) = [] := by
  simp [continuation, h]

theorem TagLine.ofLine?_eq_none {line rest : List Char} {c : Char} (htrim : trim line = c :: rest)
    (hat : c ≠ '@') (hcolon : c ≠ ':') : TagLine.ofLine? line = none := by
  unfold TagLine.ofLine?
  rw [htrim]
  cases rest with
  | nil => rfl
  | cons d rest =>
    simp only
    rw [if_neg]
    rintro ⟨h | h, -⟩
    · exact hat h
    · exact hcolon h

/-- A tag line, up to where its name ends. -/
theorem TagLine.ofLine?_eq_some (stop : Char) {line more rest : List Char} {c : Char}
    (htrim : trim line = '@' :: c :: (more ++ stop :: rest)) (hc : isAsciiLetter c = true)
    (hmore : ∀ d ∈ more, isWord d = true) (hstop : isWord stop = false) :
    TagLine.ofLine? line = some { name := lower (c :: more), text := stop :: rest } := by
  have htake : (more ++ stop :: rest).takeWhile isWord = more := by
    rw [List.takeWhile_append_of_pos hmore, List.takeWhile_cons_of_neg (by simp [hstop]),
      List.append_nil]
  have hdrop : (more ++ stop :: rest).dropWhile isWord = stop :: rest := by
    rw [List.dropWhile_append_of_pos hmore, List.dropWhile_cons_of_neg (by simp [hstop])]
  unfold TagLine.ofLine?
  rw [htrim]
  simp only [htake, hdrop, true_or, hc, true_and, if_true]

/-- A parameter as it is written in a tag. -/
structure WrittenParam where
  name : String
  comment : String
  deriving DecidableEq, Repr

namespace WrittenParam

def source (p : WrittenParam) : List Char :=
  ['@', 'p', 'a', 'r', 'a', 'm', ' '] ++ p.name.toList ++ [':', ' '] ++ p.comment.toList

/-- What a tag line says after the tag. -/
def text (p : WrittenParam) : List Char :=
  ' ' :: (p.name.toList ++ ':' :: ' ' :: trimRight p.comment.toList)

/-- The tag line, without blanks at its end. -/
def line (p : WrittenParam) : List Char := '@' :: 'p' :: (['a', 'r', 'a', 'm'] ++ p.text)

/-- The tag on the line of the given number. -/
def tag (p : WrittenParam) (number : Nat) : Tag :=
  { name := ['p', 'a', 'r', 'a', 'm'], line := number, parts := [p.text] }

def shown (p : WrittenParam) (number : Nat) : ParamTag :=
  { name := p.name, comment := String.ofList (trimRight p.comment.toList), line := number }

theorem text_tag (p : WrittenParam) (number : Nat) : (p.tag number).text = p.text := by
  simp [Tag.text, tag, joinWith]

theorem isParam_tag (p : WrittenParam) (number : Nat) :
    (p.tag number).isParam = true ∧ (p.tag number).isReturn = false := by
  dsimp only [Tag.isParam, Tag.isReturn, tag]
  decide

/-- A parameter with a name and a comment, on one line. -/
structure WellFormed (p : WrittenParam) : Prop where
  name_ne_nil : p.name.toList ≠ []
  name : ∀ c ∈ p.name.toList, isWord c = true
  comment : ∃ c rest, p.comment.toList = c :: rest ∧ isBlank c = false ∧ isAsciiLower c = false
  colon : ':' ∉ p.comment.toList
  plain : ∀ c ∈ p.comment.toList, isPlain c = true

variable {p : WrittenParam}

theorem WellFormed.trim_line (h : p.WellFormed) : trim p.line = p.line := by
  obtain ⟨c, rest, hcomment, hc, -⟩ := h.comment
  have hat : isBlank '@' = false := by decide
  have hline : p.line = '@' :: (['p', 'a', 'r', 'a', 'm', ' '] ++ p.name.toList ++ [':', ' '] ++
      trimRight p.comment.toList) := by
    simp [line, text]
  have hmem : c ∈ p.comment.toList := by simp [hcomment]
  rw [hline, ← trimRight_append hmem hc, trim_cons hat, trimRight_trimRight]

theorem WellFormed.source_plain (h : p.WellFormed) : ∀ c ∈ p.source, isPlain c = true := by
  have hmark : ∀ c ∈ ['@', 'p', 'a', 'r', 'a', 'm', ' '], isPlain c = true :=
    List.all_eq_true.1 (by decide)
  have hcolon : ∀ c ∈ [':', ' '], isPlain c = true := List.all_eq_true.1 (by decide)
  simp only [source, List.forall_mem_append]
  exact ⟨⟨⟨hmark, fun c hc => isPlain_of_isWord (h.name c hc)⟩, hcolon⟩, h.plain⟩

theorem WellFormed.trimRight_source (h : p.WellFormed) : trimRight p.source = p.line := by
  obtain ⟨c, rest, hcomment, hc, -⟩ := h.comment
  have hmem : c ∈ p.comment.toList := by simp [hcomment]
  rw [source, trimRight_append hmem hc]
  simp [line, text]

theorem WellFormed.ofLine? (h : p.WellFormed) :
    TagLine.ofLine? p.line = some { name := ['p', 'a', 'r', 'a', 'm'], text := p.text } :=
  TagLine.ofLine?_eq_some ' ' h.trim_line (by decide) (List.all_eq_true.1 (by decide)) (by decide)

/-- The name and the comment are read back: no colon stands in the comment. -/
theorem WellFormed.ofText (h : p.WellFormed) (number : Nat) :
    ParamTag.ofText p.text number = p.shown number := by
  obtain ⟨c, rest, hcomment, hc, -⟩ := h.comment
  have hnone : nameAndColon? (trimLeft (trimRight p.comment.toList)) = none :=
    nameAndColon?_eq_none fun hmem =>
      h.colon ((trimRight_isPrefix _).subset ((List.dropWhile_suffix _).subset hmem))
  have htrim : trim (trimRight p.comment.toList) = trimRight p.comment.toList := by
    rw [hcomment, trimRight_cons hc, trim_cons hc, trimRight_trimRight]
  let n : StarredName := ⟨0, p.name.toList, h.name_ne_nil, h.name⟩
  have htext : p.text = ' ' :: (n.text ++ ':' :: ' ' :: trimRight p.comment.toList) := rfl
  rw [htext, ParamTag.ofText_untyped n hnone, ParamTag.written, htrim, String.ofList_toList]
  rfl

end WrittenParam

/-! ## The whole comment -/

/-- A comment in the usual form: a summary, the parameters, and the returned
value. -/
structure FullComment where
  summary : String
  params : List WrittenParam
  returns : String
  /-- The number of spaces before each line but the first and the last. -/
  indent : Nat
  /-- The number of spaces before the closing quotes. -/
  closing : Nat
  deriving DecidableEq, Repr

namespace FullComment

def returnText (c : FullComment) : List Char := ':' :: ' ' :: trimRight c.returns.toList

/-- The line of the return tag, without blanks at its end. -/
def returnLine (c : FullComment) : List Char :=
  '@' :: 'r' :: (['e', 't', 'u', 'r', 'n'] ++ c.returnText)

/-- The return tag on the line of the given number. -/
def returnTag (c : FullComment) (number : Nat) : Tag :=
  { name := ['r', 'e', 't', 'u', 'r', 'n'], line := number, parts := [c.returnText] }

/-- The lines of the tags, and the last line, as they are read. -/
def tagLines (c : FullComment) : List (List Char) :=
  c.params.map WrittenParam.line ++ [c.returnLine, []]

/-- The line of the return tag as it is written. -/
def returnSource (c : FullComment) : List Char :=
  ['@', 'r', 'e', 't', 'u', 'r', 'n', ':', ' '] ++ c.returns.toList

/-- The lines between the quotes as they are written, without indentation. -/
def body (c : FullComment) : List (List Char) :=
  c.summary.toList :: [] ::
    (c.params.map WrittenParam.source ++ [c.returnSource])

/-- The source text of the comment. -/
def text (c : FullComment) : String :=
  tripleQuoted ([] :: (c.body.map (padded c.indent) ++ [List.replicate c.closing ' ']))

def reading (c : FullComment) : Reading :=
  let params := (c.params.zipIdx 3).map fun p => p.1.shown p.2
  let returnTag := some (ReturnTag.ofText c.returnText (3 + c.params.length))
  let summary := String.ofList (trimRight c.summary.toList)
  { comment := some
      { content := summary
        line := 1
        shortDescription := summary
        blankLinesBeforeTags := some 1
        params := params
        returnTag := returnTag
        endLine := 4 + c.params.length }
    params := params
    returnTag := returnTag }

/-- A comment that says something about everything, on one line each. -/
structure WellFormed (c : FullComment) : Prop where
  summary : ∃ first rest, c.summary.toList = first :: rest ∧ isBlank first = false ∧
    isAsciiLower first = false ∧ first ≠ '@' ∧ first ≠ ':'
  summary_plain : ∀ d ∈ c.summary.toList, isPlain d = true
  params : ∀ p ∈ c.params, p.WellFormed
  returns : ∃ d ∈ c.returns.toList, isBlank d = false ∧ d ≠ ':'
  returns_plain : ∀ d ∈ c.returns.toList, isPlain d = true

variable {c : FullComment}

theorem WellFormed.trimRight_returns (h : c.WellFormed) (before : List Char) :
    trimRight (before ++ c.returns.toList) = before ++ trimRight c.returns.toList := by
  obtain ⟨d, hd, hblank, -⟩ := h.returns
  exact trimRight_append hd hblank

/-- The lines of the body without blanks at their ends. -/
theorem WellFormed.map_trimRight_body (h : c.WellFormed) : c.body.map trimRight ++ [[]] =
    trimRight c.summary.toList :: [] :: c.tagLines := by
  have hparams : ∀ p ∈ c.params, trimRight p.source = p.line := fun p hp =>
    (h.params p hp).trimRight_source
  have hreturn : trimRight c.returnSource = c.returnLine := by
    rw [returnSource, h.trimRight_returns]
    simp [returnLine, returnText]
  simp only [body, tagLines, List.map_cons, List.map_append, List.map_map, trimRight_nil,
    List.map_nil, hreturn, Function.comp_def, List.map_congr_left hparams, List.cons_append,
    List.append_assoc, List.nil_append]

theorem WellFormed.body_plain (h : c.WellFormed) : ∀ line ∈ c.body, ∀ d ∈ line,
    isPlain d = true := by
  have hreturn : ∀ d ∈ ['@', 'r', 'e', 't', 'u', 'r', 'n', ':', ' '], isPlain d = true :=
    List.all_eq_true.1 (by decide)
  intro line hline
  simp only [body, List.mem_cons, List.mem_append, List.mem_map, List.not_mem_nil, or_false]
    at hline
  rcases hline with rfl | rfl | ⟨p, hp, rfl⟩ | rfl
  · exact h.summary_plain
  · simp
  · exact (h.params p hp).source_plain
  · exact List.forall_mem_append.2 ⟨hreturn, h.returns_plain⟩

theorem WellFormed.body_filled (h : c.WellFormed) : ∀ line ∈ c.body,
    line = [] ∨ StartsFilled line := by
  have hat : isBlank '@' = false := by decide
  intro line hline
  simp only [body, List.mem_cons, List.mem_append, List.mem_map, List.not_mem_nil, or_false]
    at hline
  rcases hline with rfl | rfl | ⟨p, hp, rfl⟩ | rfl
  · obtain ⟨first, rest, hsummary, hfirst, -⟩ := h.summary
    exact .inr ⟨first, rest, hsummary, hfirst⟩
  · exact .inl rfl
  · exact .inr ⟨'@', _, rfl, hat⟩
  · exact .inr ⟨'@', _, rfl, hat⟩

theorem WellFormed.ofLine?_summary (h : c.WellFormed) :
    TagLine.ofLine? (trimRight c.summary.toList) = none := by
  obtain ⟨first, rest, hsummary, hfirst, -, hat, hcolon⟩ := h.summary
  have htrim : trim (trimRight c.summary.toList) = first :: trimRight rest := by
    rw [hsummary, trimRight_cons hfirst, trim_cons hfirst, trimRight_trimRight]
  exact TagLine.ofLine?_eq_none htrim hat hcolon

theorem WellFormed.tokenLines (h : c.WellFormed) : Reader.tokenLines lexicon c.text =
    .ok ([] :: trimRight c.summary.toList :: [] :: c.tagLines) := by
  obtain ⟨first, rest, hsummary, -⟩ := h.summary
  have hspaces : ∀ n, ∀ d ∈ List.replicate n ' ', isPlain d = true := fun n d hd => by
    rw [List.eq_of_mem_replicate hd]
    decide
  have hplain : ∀ l ∈ [] :: (c.body.map (padded c.indent) ++ [List.replicate c.closing ' ']),
      ∀ d ∈ l, isPlain d = true := by
    intro l hl
    rw [List.mem_cons, List.mem_append, List.mem_map, List.mem_singleton] at hl
    rcases hl with rfl | ⟨line, hline, rfl⟩ | rfl
    · simp
    · unfold padded
      split
      · simp
      · exact List.forall_mem_append.2 ⟨hspaces _, h.body_plain line hline⟩
    · exact hspaces _
  rw [text, tokenLines_triple (List.cons_ne_nil _ _) hplain,
    dedent_padded c.indent c.closing h.body_filled
      ⟨c.summary.toList, by simp [body], by simp [hsummary]⟩, h.map_trimRight_body]

theorem WellFormed.ofLine?_returnLine (h : c.WellFormed) : TagLine.ofLine? c.returnLine =
    some { name := ['r', 'e', 't', 'u', 'r', 'n'], text := c.returnText } := by
  have hat : isBlank '@' = false := by decide
  have hline : c.returnLine = '@' :: (['r', 'e', 't', 'u', 'r', 'n', ':', ' '] ++
      trimRight c.returns.toList) := by simp [returnLine, returnText]
  have htrim : trim c.returnLine = c.returnLine := by
    rw [hline, ← h.trimRight_returns, trim_cons hat, trimRight_trimRight]
  exact TagLine.ofLine?_eq_some ':' htrim (by decide) (List.all_eq_true.1 (by decide)) (by decide)

/-- The tags of some tag lines for parameters, another tag line and an empty line. -/
theorem ofLines_tagLines (params : List WrittenParam) (hparams : ∀ p ∈ params, p.WellFormed)
    {last : List Char} {name text : List Char}
    (hlast : TagLine.ofLine? last = some { name := name, text := text }) (number : Nat) :
    Tag.ofLines number (params.map WrittenParam.line ++ [last, []]) =
      ((params.zipIdx number).map fun p => p.1.tag p.2) ++
      [{ name := name, line := number + params.length, parts := [text] }] := by
  induction params generalizing number with
  | nil =>
    simp [Tag.ofLines, hlast, show TagLine.ofLine? [] = none from rfl, Tag.continuation,
      show isTagLine [] = false from rfl]
  | cons p params ih =>
    have hnext : Tag.continuation (params.map WrittenParam.line ++ [last, []]) = [] := by
      cases params with
      | nil => exact Tag.continuation_cons (by simp [isTagLine, hlast])
      | cons p' params =>
        exact Tag.continuation_cons (by simp [isTagLine, (hparams p' (by simp)).ofLine?])
    rw [List.map_cons, List.cons_append, Tag.ofLines]
    simp only [(hparams p (by simp)).ofLine?, hnext, ih (fun q hq => hparams q (by simp [hq]))]
    simp [List.zipIdx_cons, WrittenParam.tag, Nat.add_assoc, Nat.add_comm 1]

theorem text_returnTag (c : FullComment) (number : Nat) :
    (c.returnTag number).text = c.returnText := by
  simp [Tag.text, returnTag, joinWith]

theorem isParam_returnTag (c : FullComment) (number : Nat) :
    (c.returnTag number).isParam = false ∧ (c.returnTag number).isReturn = true := by
  dsimp only [Tag.isParam, Tag.isReturn, returnTag]
  decide

theorem WellFormed.tagLines_eq_cons (h : c.WellFormed) :
    ∃ line more, c.tagLines = line :: more ∧ isTagLine line = true := by
  unfold tagLines
  cases hparams : c.params with
  | nil => exact ⟨_, _, rfl, by rw [isTagLine, h.ofLine?_returnLine]; rfl⟩
  | cons p params =>
    exact ⟨_, _, rfl, by rw [isTagLine, (h.params p (by simp [hparams])).ofLine?]; rfl⟩

theorem WellFormed.ofLines (h : c.WellFormed) :
    Tag.ofLines 0 ([] :: trimRight c.summary.toList :: [] :: c.tagLines) =
      ((c.params.zipIdx 3).map fun p => p.1.tag p.2) ++ [c.returnTag (3 + c.params.length)] := by
  have hnil : TagLine.ofLine? [] = none := rfl
  simp only [Tag.ofLines, hnil, h.ofLine?_summary]
  exact ofLines_tagLines c.params h.params h.ofLine?_returnLine 3

theorem WellFormed.ofLines_comment (h : c.WellFormed) (params : List ParamTag)
    (returnTag : Option ReturnTag) :
    DocComment.ofLines ([] :: trimRight c.summary.toList :: [] :: c.tagLines) params returnTag =
      some
        { content := String.ofList (trimRight c.summary.toList)
          line := 1
          shortDescription := String.ofList (trimRight c.summary.toList)
          blankLinesBeforeTags := some 1
          params := params
          returnTag := returnTag
          endLine := 4 + c.params.length } := by
  obtain ⟨first, rest, hsummary, hfirst, -⟩ := h.summary
  have hsummary' : trimRight c.summary.toList = first :: trimRight rest := by
    rw [hsummary, trimRight_cons hfirst]
  obtain ⟨line, more, hlines, hline⟩ := h.tagLines_eq_cons
  have hlength : c.tagLines.length = c.params.length + 2 := by simp [tagLines]
  have hstart : ([] :: trimRight c.summary.toList :: [] :: c.tagLines).findIdx? isTagLine =
      some 3 := by
    have hnil : isTagLine [] = false := rfl
    have hno : isTagLine (trimRight c.summary.toList) = false := by
      rw [isTagLine, h.ofLine?_summary]
      rfl
    rw [hlines]
    simp [List.findIdx?_cons, hnil, hno, hline]
  have hdescription : Description.ofLines [[], first :: trimRight rest, []] =
      ⟨1, [first :: trimRight rest], 0, [], 1⟩ := rfl
  unfold DocComment.ofLines
  rw [hstart, hsummary']
  simp only [Option.getD_some, List.take_succ_cons, List.take_zero, hdescription,
    Description.body, List.length_cons, hlength]
  simp [joinWith]
  omega

/-- Reading a comment in the usual form. -/
theorem WellFormed.docstringReader_text (h : c.WellFormed) :
    docstringReader lexicon c.text = .ok c.reading := by
  have htags : ∀ p ∈ c.params.zipIdx 3, ParamTag.ofText p.1.text p.2 = p.1.shown p.2 := by
    intro p hp
    exact (h.params p.1 (List.fst_mem_of_mem_zipIdx hp)).ofText p.2
  have hfilter : (((c.params.zipIdx 3).map fun p => p.1.tag p.2) ++
      [c.returnTag (3 + c.params.length)]).filter Tag.isParam =
        (c.params.zipIdx 3).map fun p => p.1.tag p.2 := by
    rw [List.filter_append, List.filter_eq_self.2 fun tag htag => ?_]
    · simp [isParam_returnTag]
    · obtain ⟨p, -, rfl⟩ := List.mem_map.1 htag
      exact (p.1.isParam_tag p.2).1
  have hfind : (((c.params.zipIdx 3).map fun p => p.1.tag p.2) ++
      [c.returnTag (3 + c.params.length)]).find? Tag.isReturn =
        some (c.returnTag (3 + c.params.length)) := by
    rw [List.find?_append, List.find?_eq_none.2 fun tag htag => ?_]
    · simp [isParam_returnTag]
    · obtain ⟨p, -, rfl⟩ := List.mem_map.1 htag
      rw [(p.1.isParam_tag p.2).2]
      simp
  simp only [docstringReader, Reader.read, h.tokenLines, Reader.readLines, h.ofLines,
    h.ofLines_comment, bind, Except.bind, pure, Except.pure, hfilter, hfind]
  have hparams : (((c.params.zipIdx 3).map fun p => p.1.tag p.2).map fun tag =>
      ParamTag.ofText tag.text tag.line) = (c.params.zipIdx 3).map fun p => p.1.shown p.2 := by
    rw [List.map_map]
    exact List.map_congr_left fun p hp => by
      rw [Function.comp_apply, p.1.text_tag]
      exact htags p hp
  rw [List.nil_append, hparams, Option.map_some, c.text_returnTag]
  rfl

end FullComment

end DocLint
