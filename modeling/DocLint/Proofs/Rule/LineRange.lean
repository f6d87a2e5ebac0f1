import DocLint.Proofs.Comment.DescriptionSpan
import DocLint.Proofs.Literal.LineFeeds
import DocLint.Proofs.Rule.Opening

/-!
# The lines of violations

The lines of a doc comment are the lines of the text that its token stands for,
and not of the token as it is written. So the last line of a comment is as many
lines below the first as the text has line feeds, and all violations lie between
the two.

Results:
* `Reading.EndsAt`, `docstringReader_quoted`: the lines that are read from one
  quoted literal, and which of them is the last.
* `Evidence.line_of_mem_findings`: the lines of findings.
* `check_lines`: the lines of violations, in a file.
-/
namespace DocLint

open Text TokenSequence

/-! ## The lines that are read -/

/-- All lines in a reading lie between the first line, which is line zero, and
the last. -/
structure Reading.EndsAt (r : Reading) (last : Int) : Prop where
  comment : ∀ c, r.comment = some c → 0 ≤ c.line ∧ c.line ≤ last ∧ c.endLine = last
  params : ∀ p ∈ r.params, 0 ≤ p.line ∧ p.line ≤ last
  returnTag : ∀ t, r.returnTag = some t → 0 ≤ t.line ∧ t.line ≤ last

variable {lines : List (List Char)}

theorem Tag.line_of_mem_ofLines {number : Nat} {tag : Tag} (h : tag ∈ Tag.ofLines number lines) :
    number ≤ tag.line ∧ tag.line < number + lines.length := by
  induction lines generalizing number with
  | nil => cases h
  | cons line after ih =>
    rw [List.length_cons]
    have hafter : tag ∈ Tag.ofLines (number + 1) after →
        number ≤ tag.line ∧ tag.line < number + (after.length + 1) := fun h => by
      have := ih h
      omega
    unfold Tag.ofLines at h
    split at h
    · rcases List.mem_cons.1 h with rfl | h
      · constructor <;> simp
      · exact hafter h
    · exact hafter h

theorem DocComment.line_of_ofLines {params : List ParamTag} {returnTag : Option ReturnTag}
    {c : DocComment} (h : DocComment.ofLines lines params returnTag = some c) :
    0 ≤ c.line ∧ c.line ≤ (lines.length : Int) - 1 ∧ c.endLine = (lines.length : Int) - 1 := by
  rcases ofLines_cases h with ⟨-, htag, rfl⟩ | ⟨d, hcuts, rfl⟩
  · refine ⟨Int.natCast_nonneg _, ?_, rfl⟩
    simp only [tagsOnly]
    omega
  · have hlength := hcuts.length_eq
    have hpos := hcuts.length_body_pos
    rw [List.length_take] at hlength
    refine ⟨Int.natCast_nonneg _, ?_, rfl⟩
    simp only [ofDescription]
    omega

/-- The first reading of some lines ends at the last of them. -/
theorem Reader.readLines_endsAt (lines : List (List Char)) :
    (Reader.readLines {} lines).EndsAt ((lines.length : Int) - 1) where
  comment := fun c hc => DocComment.line_of_ofLines hc
  params := by
    intro p hp
    obtain ⟨tag, htag, rfl⟩ := List.mem_map.1 hp
    have := Tag.line_of_mem_ofLines (List.mem_filter.1 htag).1
    simp only [ParamTag.ofText]
    omega
  returnTag := by
    intro t ht
    obtain ⟨tag, htag, rfl⟩ := Option.map_eq_some_iff.1 ht
    have := Tag.line_of_mem_ofLines (List.mem_of_find?_eq_some htag)
    simp only [ReturnTag.ofText]
    omega

/-- A text between quotes is read, and the reading ends at the last line of the
text that it stands for. -/
theorem docstringReader_quoted {lexicon : Literal.Lexicon} (q : Literal.QuotedText lexicon) :
    ∃ reading, docstringReader lexicon (String.ofList q.source) = .ok reading ∧
      reading.EndsAt (q.value.count '\n') := by
  have hends := Reader.readLines_endsAt (dedent (lines q.value))
  rw [length_dedent, length_lines, Int.natCast_succ, Int.add_sub_cancel] at hends
  exact ⟨_, docstringReader_eq q.readText_source, hends⟩

/-! ## The lines of findings -/

theorem DocComment.line_of_mem_descriptionFindings {c : DocComment} {f : Finding}
    (h : f ∈ c.descriptionFindings) : f.line = 0 ∨ f.line = c.line := by
  unfold DocComment.descriptionFindings at h
  split at h
  · obtain rfl := List.mem_singleton.1 h
    exact .inl rfl
  · simp only [List.mem_append, List.mem_ite_nil_right, List.mem_singleton] at h
    rcases h with (⟨-, rfl⟩ | ⟨-, rfl⟩) | ⟨-, rfl⟩ <;> exact .inr rfl

theorem DocComment.line_of_mem_capitalFindings {c : DocComment} {f : Finding}
    (h : f ∈ c.capitalFindings) : f.line = c.line := by
  unfold DocComment.capitalFindings at h
  split at h
  · cases h
  · obtain rfl := List.mem_singleton.1 h
    rfl

namespace Reading.EndsAt

variable {r : Reading} {last : Int} {f : Finding}

/-- What is found about the parameter tags lies on their lines, or on that of
the description. -/
theorem line_of_mem_paramFindings (h : r.EndsAt last) {real : List String} {line : Int}
    (hline : 0 ≤ line ∧ line ≤ last) (hf : f ∈ r.paramFindings real line) :
    0 ≤ f.line ∧ f.line ≤ last := by
  unfold Reading.paramFindings at hf
  rcases List.mem_append.1 hf with hf | hf
  · obtain ⟨⟨tag, i⟩, htag, hf⟩ := List.mem_flatMap.1 hf
    rw [ParamTag.line_of_mem_findings hf]
    exact h.params tag (List.fst_mem_of_mem_zipIdx htag)
  · obtain ⟨name, -, rfl⟩ := List.mem_map.1 hf
    cases htags : r.params.getLast? with
    | none => simpa [htags] using hline
    | some tag => simpa [htags] using h.params tag (List.mem_of_getLast? htags)

theorem line_of_mem_capitalFindings (h : r.EndsAt last)
    (hf : f ∈ ParamTag.capitalFindings r.params) : 0 ≤ f.line ∧ f.line ≤ last := by
  obtain ⟨tag, htag, rfl⟩ := List.mem_map.1 hf
  exact h.params tag (List.mem_filter.1 htag).1

theorem line_of_mem_returnFindings (h : r.EndsAt last) (hlast : 0 ≤ last)
    (hf : f ∈ r.returnFindings last) : 0 ≤ f.line ∧ f.line ≤ last := by
  unfold Reading.returnFindings at hf
  cases htag : r.returnTag with
  | none =>
    rw [htag] at hf
    obtain rfl := List.mem_singleton.1 hf
    exact ⟨hlast, Int.le_refl last⟩
  | some tag =>
    simp only [htag] at hf
    split at hf
    · obtain rfl := List.mem_singleton.1 hf
      exact h.returnTag tag htag
    · cases hf

end Reading.EndsAt

namespace Evidence

variable {e : Evidence} {last : Int} {f : Finding}

/-- Whatever is found lies between the first line and the last. -/
theorem line_of_mem_findings (hcomment : e.reading.comment = some e.comment)
    (h : e.reading.EndsAt last) (hf : f ∈ e.findings ∨ f ∈ e.baselineFindings) :
    0 ≤ f.line ∧ f.line ≤ last := by
  obtain ⟨hzero, hle, hend⟩ := h.comment e.comment hcomment
  have hparam : f ∈ e.paramFindings → 0 ≤ f.line ∧ f.line ≤ last :=
    h.line_of_mem_paramFindings ⟨hzero, hle⟩
  have hreturn (hf : f ∈ e.returnFindings) : 0 ≤ f.line ∧ f.line ≤ last := by
    unfold returnFindings at hf
    split at hf
    · cases hf
    · rw [hend] at hf
      exact h.line_of_mem_returnFindings (Int.le_trans hzero hle) hf
  have hdescription (hf : f ∈ e.comment.descriptionFindings) : 0 ≤ f.line ∧ f.line ≤ last := by
    rcases DocComment.line_of_mem_descriptionFindings hf with hf | hf <;> omega
  have hcapital (hf : f ∈ e.comment.capitalFindings) : 0 ≤ f.line ∧ f.line ≤ last := by
    rw [DocComment.line_of_mem_capitalFindings hf]
    exact ⟨hzero, hle⟩
  rcases hf with hf | hf
  · simp only [findings, List.mem_append] at hf
    rcases hf with ((hf | hf) | hf) | hf
    · split at hf
      · cases hf
      · exact (List.mem_append.1 hf).elim hparam h.line_of_mem_capitalFindings
    · split at hf
      · cases hf
      · split at hf
        · exact hreturn hf
        · cases hf
    · exact hdescription hf
    · exact hcapital hf
  · simp only [baselineFindings, List.mem_append] at hf
    rcases hf with (hf | hf) | hf
    · exact hparam hf
    · exact hreturn hf
    · exact hdescription hf

end Evidence

/-! ## The lines of violations -/

/-- In a file, all violations about a doc comment that is one quoted text lie
between the line of its token and the last line of the comment. The comment has
as many line ends as the token, where a carriage return alone is one, but for the
escapes that stand for line feeds and those that join lines. -/
theorem check_lines {lexicon : Literal.Lexicon} (xs : List Lexeme) (ignored exempt : List String)
    (n k : Nat) (t d : Token) (q : Literal.QuotedText lexicon)
    (ht : (ofLexemes xs).tokens[n]? = some t) (hkind : t.kind = .function)
    (hdoc : (ofLexemes xs).docCommentOf n = .ok (some k))
    (hd : (ofLexemes xs).tokens[k]? = some d) (htext : d.text = String.ofList q.source) :
    ∃ reading, docstringReader lexicon d.text = .ok reading ∧ ∀ c, reading.comment = some c →
      c.endLine + Literal.joinedLines q.escapes =
        q.source.count '\n' + Literal.loneReturns q.source + Literal.lineFeedEscapes q.escapes ∧
      ∃ vs ws,
        (FunctionRule.mk (docstringReader lexicon) ignored exempt).check (ofLexemes xs) n = .ok vs ∧
        (FunctionRule.mk (docstringReader lexicon) ignored exempt).checkBaseline (ofLexemes xs) n =
          .ok ws ∧
        ∀ v, v ∈ vs ∨ v ∈ ws → d.line ≤ v.line ∧ v.line ≤ d.line + c.endLine := by
  obtain ⟨reading, hread, hends⟩ := docstringReader_quoted q
  rw [← htext] at hread
  refine ⟨reading, hread, fun c hc => ?_⟩
  have hend := (hends.comment c hc).2.2
  refine ⟨by rw [hend]; exact_mod_cast q.count_value, ?_⟩
  have hs : t.extent.Sound (ofLexemes xs) n :=
    sound_of_token ht (by simp [Token.isDeclaration, hkind])
  have hopened := Opening.ofFunction_of_docComment (docstringReader lexicon) hdoc hd
  simp only [hread, hc, Option.isSome_some, if_true] at hopened
  set u : Subject := ⟨ofLexemes xs, n, k, d, reading, (get?_natCast _ k).trans hd⟩
  have hu : u.IsRead (docstringReader lexicon) (ofLexemes xs) n := ⟨rfl, rfl, hread, c, hc⟩
  obtain ⟨e, he, -⟩ := hu.exists_evidence ⟨docstringReader lexicon, ignored, exempt⟩ ht hs
  refine ⟨_, _, FunctionRule.check_opened (isAnchored_of_function ht hkind) hopened he,
    FunctionRule.checkBaseline_opened hopened he, fun v hv => ?_⟩
  obtain ⟨f, hf, rfl⟩ : ∃ f, (f ∈ e.findings ∨ f ∈ e.baselineFindings) ∧ u.violation f = v := by
    rcases hv with hv | hv
    · obtain ⟨f, hf, hv⟩ := List.mem_map.1 hv
      exact ⟨f, .inl hf, hv⟩
    · obtain ⟨f, hf, hv⟩ := List.mem_map.1 hv
      exact ⟨f, .inr hf, hv⟩
  have hreading : reading = e.reading := he.reading
  have := Evidence.line_of_mem_findings (hreading ▸ he.comment) (hreading ▸ hends) hf
  show d.line ≤ d.line + f.line ∧ d.line + f.line ≤ d.line + c.endLine
  omega

/-- The text `'A.\n'`, in which the line feed is an escape. -/
def escapedText : Literal.QuotedText .small where
  flags := []
  mark := '\''
  rest := ['A', '.', '\\', 'n', '\'']
  body := ['A', '.', '\\', 'n']
  value := ['A', '.', '\n']
  flags_mem := by decide
  mark_mem := by decide
  noZero := by decide
  closes := by decide
  standsFor := by simp [Literal.isRaw, Literal.QuoteFlags.quotation?, Literal.unescape, Literal.escape]

/-- `def f():` with that text as its block. -/
def escapedFile : List Lexeme :=
  [⟨.name, "def", 1, 0⟩, ⟨.name, "f", 1, 4⟩, ⟨.operator, "(", 1, 5⟩, ⟨.operator, ")", 1, 6⟩,
    ⟨.operator, ":", 1, 7⟩, ⟨.newline, "\n", 1, 8⟩, ⟨.indent, "  ", 2, 0⟩,
    ⟨.string, "'A.\\n'", 2, 2⟩, ⟨.newline, "\n", 2, 8⟩, ⟨.dedent, "", 3, 0⟩,
    ⟨.endMarker, "", 3, 0⟩]

theorem escapedFile_function : (ofLexemes escapedFile).tokens[1]? =
    some ⟨.function, "def", 1, 0, ⟨some 5, some 9, some 3, some 4⟩⟩ := by
  decide

theorem escapedFile_token : (ofLexemes escapedFile).tokens[8]? =
    some ⟨.docComment, "'A.\\n'", 2, 2, {}⟩ := by
  decide

theorem escapedFile_docComment : (ofLexemes escapedFile).docCommentOf 1 = .ok (some 8) := by
  decide

theorem docstringReader_escaped : docstringReader .small "'A.\\n'" = .ok
    { comment := some { content := "A.", line := 0, shortDescription := "A.", endLine := 1 } } := by
  have hread : Literal.readText .small "'A.\\n'" = .ok ['A', '.', '\n'] :=
    escapedText.readText_source
  rw [docstringReader_eq hread]
  decide

/-- The violations of that function lie on the line of the text or on the next. -/
theorem escapedFile_lines : ∃ vs,
    (FunctionRule.mk (docstringReader .small) [] []).checkBaseline (ofLexemes escapedFile) 1 =
      .ok vs ∧
    ∀ v ∈ vs, 2 ≤ v.line ∧ v.line ≤ 3 := by
  obtain ⟨reading, hread, h⟩ := check_lines escapedFile [] [] 1 8 _ _ escapedText
    escapedFile_function rfl escapedFile_docComment escapedFile_token rfl
  obtain rfl := Except.ok.inj (docstringReader_escaped.symm.trans hread)
  obtain ⟨-, vs, ws, -, hws, hlines⟩ := h _ rfl
  exact ⟨ws, hws, fun v hv => hlines v (.inr hv)⟩

/-- The token lies on line two alone, but its comment ends one line below, and
the missing return tag is reported there. -/
theorem escapedFile_beyond : '\n' ∉ escapedText.source ∧
    (ofLexemes escapedFile).tokens[8]? =
      some ⟨.docComment, String.ofList escapedText.source, 2, 2, {}⟩ ∧
    (∃ c, docstringReader .small (String.ofList escapedText.source) = .ok { comment := some c } ∧
      c.endLine = 1) ∧
    ∃ v, (FunctionRule.mk (docstringReader .small) [] []).checkBaseline (ofLexemes escapedFile) 1 =
      .ok [v] ∧ v.code = Check.returnMissing.code ∧ v.line = 3 := by
  refine ⟨by decide, escapedFile_token, ⟨_, docstringReader_escaped, rfl⟩,
    ⟨Check.returnMissing.code, Check.returnMissing.template, 8, 3, []⟩, ?_, rfl, rfl⟩
  have hopened := Opening.ofFunction_of_docComment (docstringReader .small) escapedFile_docComment
    escapedFile_token
  simp only [docstringReader_escaped, Option.isSome_some, if_true] at hopened
  simp only [FunctionRule.checkBaseline, FunctionRule.runSteps]
  rw [hopened]
  decide

end DocLint
