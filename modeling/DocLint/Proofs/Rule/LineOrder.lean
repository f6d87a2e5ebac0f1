import DocLint.Proofs.Comment.Dedent
import DocLint.Proofs.Comment.Description
import DocLint.Proofs.Comment.TagSegments
import DocLint.Proofs.Rule.Clean
import DocLint.Proofs.Rule.Inversion
import DocLint.Proofs.Rule.LineRange
import Mathlib.Data.List.Nodup
import Mathlib.Data.List.Pairwise

/-!
# The order of the lines of a comment

The tags of a doc comment stand on lines of their own, in the order in which they
are read, and all of them after the description. So what is found about the
parameters is reported from the top down.

Results:
* `Reading.LaidOut`, `docstringReader_laidOut`: how the lines of a comment lie in
  the text that it is read from.
* `Reading.paramFindings_sorted`: the lines of what is found about the parameters.
* `opened_lines`: the lines of a comment that was found in a file, and of all
  violations about it.
-/
namespace DocLint

open Text TokenSequence

variable {ls : List (List Char)}

/-! ## The description and the tags -/

namespace Tag

variable {tag : Tag}

theorem pairwise_ofLines (number : Nat) (ls : List (List Char)) :
    (ofLines number ls).Pairwise fun a b => a.line < b.line := by
  induction ls generalizing number with
  | nil => exact .nil
  | cons line after ih =>
    unfold ofLines
    split
    · exact List.pairwise_cons.2 ⟨fun tag htag => (line_of_mem_ofLines htag).1, ih (number + 1)⟩
    · exact ih (number + 1)

/-- No tag starts in the description. -/
theorem length_descriptionLines_le {number : Nat} (h : tag ∈ ofLines number ls) :
    number + (descriptionLines ls).length ≤ tag.line := by
  induction ls generalizing number with
  | nil => cases h
  | cons line after ih =>
    have hfirst := (line_of_mem_ofLines h).1
    unfold descriptionLines
    unfold ofLines at h
    cases htag : TagLine.ofLine? line with
    | some found =>
      rw [List.takeWhile_cons_of_neg (by simp [isTagLine, htag])]
      exact hfirst
    | none =>
      rw [htag] at h
      rw [List.takeWhile_cons_of_pos (by simp [isTagLine, htag]), List.length_cons]
      have : number + 1 + (descriptionLines after).length ≤ tag.line := ih h
      unfold descriptionLines at this
      omega

/-- A tag is not about a parameter and the returned value at once. -/
theorem isReturn_of_isParam (h : tag.isParam = true) : tag.isReturn = false := by
  unfold isParam at h
  unfold isReturn
  generalize String.ofList tag.name = name at h ⊢
  simp only [List.contains_eq_mem, decide_eq_true_eq, List.mem_cons, List.not_mem_nil,
    or_false] at h
  rcases h with rfl | rfl | rfl | rfl <;> decide

end Tag

def DocComment.height (c : DocComment) : Nat :=
  if c.content = "" then 0 else (lines c.content.toList).length

/-- The description of a comment ends before its tags. -/
theorem DocComment.height_of_ofLines {params : List ParamTag} {returnTag : Option ReturnTag}
    {c : DocComment} (h : DocComment.ofLines ls params returnTag = some c)
    (hls : ∀ line ∈ ls, '\n' ∉ line) :
    c.line + c.height ≤ ((descriptionLines ls).length : Int) := by
  rw [descriptionLines_eq]
  rcases ofLines_cases h with ⟨-, htag, rfl⟩ | ⟨d, hcuts, rfl⟩
  · rw [List.length_take, Nat.min_eq_left (Nat.le_of_lt htag)]
    simp [DocComment.height, tagsOnly]
  · have hlength := hcuts.length_eq
    have hline : (ofDescription d ls params returnTag).line = d.before := rfl
    unfold DocComment.height
    rw [lines_content params returnTag hls hcuts, hline]
    split <;> omega

/-! ## The lines of a reading -/

def Reading.tagLines (r : Reading) : List Int :=
  r.params.map ParamTag.line ++ r.returnTag.toList.map ReturnTag.line

theorem Reading.mem_tagLines {r : Reading} {line : Int} : line ∈ r.tagLines ↔
    (∃ p ∈ r.params, p.line = line) ∨ ∃ tag, r.returnTag = some tag ∧ tag.line = line := by
  simp only [tagLines, List.mem_append, List.mem_map, Option.mem_toList]

/-- How the lines of a reading lie in the text that was read. -/
structure Reading.LaidOut (r : Reading) (value : List Char) : Prop where
  /-- The comment shows the same tags, and it ends with the text. -/
  comment : ∀ c, r.comment = some c → c.params = r.params ∧ c.returnTag = r.returnTag ∧
    c.endLine = value.count '\n' ∧ 0 ≤ c.line ∧ c.line ≤ value.count '\n'
  params : (r.params.map ParamTag.line).Pairwise (· < ·)
  returnTag : ∀ tag, r.returnTag = some tag → ∀ p ∈ r.params, p.line ≠ tag.line
  /-- The description is among the lines before the first tag line. -/
  description : ∀ c, r.comment = some c →
    c.line + c.height ≤ ((descriptionLines (dedent (lines value))).length : Int)
  tags : ∀ line ∈ r.tagLines,
    ((descriptionLines (dedent (lines value))).length : Int) ≤ line ∧ line ≤ value.count '\n'

theorem DocComment.tags_of_ofLines {params : List ParamTag} {returnTag : Option ReturnTag}
    {c : DocComment} (h : DocComment.ofLines ls params returnTag = some c) :
    c.params = params ∧ c.returnTag = returnTag := by
  rcases ofLines_cases h with ⟨-, -, rfl⟩ | ⟨d, -, rfl⟩
  · exact ⟨rfl, rfl⟩
  · exact ⟨rfl, rfl⟩

namespace Reader

theorem pairwise_params (ls : List (List Char)) :
    ((readLines {} ls).params.map ParamTag.line).Pairwise (· < ·) := by
  simp only [readLines, List.nil_append, List.map_map, List.pairwise_map]
  refine ((Tag.pairwise_ofLines 0 ls).sublist List.filter_sublist).imp fun h => ?_
  simpa [ParamTag.ofText] using h

/-- The returned value and the parameters have tags of their own. -/
theorem returnTag_apart (ls : List (List Char)) {tag : ReturnTag} {p : ParamTag}
    (htag : (readLines {} ls).returnTag = some tag) (hp : p ∈ (readLines {} ls).params) :
    p.line ≠ tag.line := by
  obtain ⟨found, hfound, rfl⟩ := Option.map_eq_some_iff.1 htag
  obtain ⟨given, hgiven, rfl⟩ := List.mem_map.1 hp
  rw [List.mem_filter] at hgiven
  have hreturn : found.isReturn = true := List.find?_some hfound
  intro heq
  have hnodup : ((Tag.ofLines 0 ls).map Tag.line).Nodup :=
    List.pairwise_map.2 ((Tag.pairwise_ofLines 0 ls).imp Nat.ne_of_lt)
  have hsame : given = found := List.inj_on_of_nodup_map hnodup hgiven.1
    (List.mem_of_find?_eq_some hfound) (Int.ofNat.inj heq)
  rw [← hsame, Tag.isReturn_of_isParam hgiven.2] at hreturn
  cases hreturn

theorem length_descriptionLines_le (ls : List (List Char)) {line : Int}
    (h : line ∈ (readLines {} ls).tagLines) : ((descriptionLines ls).length : Int) ≤ line := by
  have htag : ∀ tag ∈ Tag.ofLines 0 ls, (descriptionLines ls).length ≤ tag.line := fun tag htag => by
    simpa using Tag.length_descriptionLines_le htag
  rcases Reading.mem_tagLines.1 h with ⟨p, hp, rfl⟩ | ⟨tag, hp, rfl⟩
  · obtain ⟨given, hgiven, rfl⟩ := List.mem_map.1 hp
    exact Int.ofNat_le.2 (htag given (List.mem_filter.1 hgiven).1)
  · obtain ⟨found, hfound, rfl⟩ := Option.map_eq_some_iff.1 hp
    exact Int.ofNat_le.2 (htag found (List.mem_of_find?_eq_some hfound))

end Reader

/-- Whatever is read is read from the text that the token stands for, line by line. -/
theorem docstringReader_laidOut {lexicon : Literal.Lexicon} {text : String} {r : Reading}
    (h : docstringReader lexicon text = .ok r) :
    ∃ value, Literal.readText lexicon text = .ok value ∧ r.LaidOut value ∧
      r.EndsAt (value.count '\n') := by
  obtain ⟨value, hvalue, rfl⟩ := exists_value_of_docstringReader h
  have hends := Reader.readLines_endsAt (dedent (lines value))
  rw [length_dedent, length_lines, Int.natCast_succ, Int.add_sub_cancel] at hends
  refine ⟨value, hvalue, ⟨fun c hc => ?_, Reader.pairwise_params _, fun tag htag p hp =>
    Reader.returnTag_apart _ htag hp, fun c hc => ?_, fun line hline => ?_⟩, hends⟩
  · obtain ⟨hzero, hle, hend⟩ := hends.comment c hc
    obtain ⟨hparams, hreturn⟩ := DocComment.tags_of_ofLines hc
    exact ⟨hparams, hreturn, hend, hzero, hle⟩
  · exact DocComment.height_of_ofLines hc fun line => lineFeed_not_mem_dedent
  · refine ⟨Reader.length_descriptionLines_le _ hline, ?_⟩
    rcases Reading.mem_tagLines.1 hline with ⟨p, hp, rfl⟩ | ⟨tag, htag, rfl⟩
    · exact (hends.params p hp).2
    · exact (hends.returnTag tag htag).2

/-! ## The lines of findings -/

/-- What is found about the parameters is found from the top down, if their tags
are in the order of their lines. -/
theorem Reading.paramFindings_sorted {r : Reading}
    (h : (r.params.map ParamTag.line).Pairwise (· < ·)) (real : List String) (line : Int) :
    ((r.paramFindings real line).map Finding.line).Pairwise (· ≤ ·) := by
  rw [List.pairwise_map, Reading.paramFindings, List.pairwise_append, List.pairwise_flatMap]
  -- Within a tag, from tag to tag, among the missing tags, and from the tags to those.
  refine ⟨⟨fun tag _ => ?_, ?_⟩, ?_, ?_⟩
  · exact List.pairwise_of_forall_mem_list fun f hf g hg => Int.le_of_eq
      ((ParamTag.line_of_mem_findings hf).trans (ParamTag.line_of_mem_findings hg).symm)
  · have hzip : (r.params.zipIdx.map Prod.fst).Pairwise fun a b => a.line < b.line := by
      rw [List.zipIdx_map_fst]
      exact List.pairwise_map.1 h
    refine (List.pairwise_map.1 hzip).imp fun hlt f hf g hg => ?_
    rw [ParamTag.line_of_mem_findings hf, ParamTag.line_of_mem_findings hg]
    exact Int.le_of_lt hlt
  · rw [List.pairwise_map]
    exact List.pairwise_of_forall_mem_list fun _ _ _ _ => Int.le_refl _
  · intro f hf g hg
    obtain ⟨⟨tag, i⟩, htag, hf⟩ := List.mem_flatMap.1 hf
    obtain ⟨name, -, rfl⟩ := List.mem_map.1 hg
    have hmem : tag.line ∈ r.params.map ParamTag.line :=
      List.mem_map_of_mem (List.fst_mem_of_mem_zipIdx htag)
    have hne : r.params ≠ [] := List.ne_nil_of_mem (List.fst_mem_of_mem_zipIdx htag)
    have hlast := (h.imp Int.le_of_lt).rel_getLast hmem
    rw [List.getLast_map] at hlast
    rw [ParamTag.line_of_mem_findings hf, List.getLast?_eq_some_getLast hne]
    exact hlast

/-! ## The lines of a file -/

/-- Wherever the comment of a function of a file has been found and read, it ends
with the text of its token, and its description and its tags follow each other in
the text. All violations lie between the line of the token and the last line of
the comment, and those about the parameters are reported from the top down. -/
theorem opened_lines {lexicon : Literal.Lexicon} (xs : List Lexeme) (ignored exempt : List String)
    (n : Nat) (t : Token) (u : Subject) (ht : (ofLexemes xs).tokens[n]? = some t)
    (hkind : t.kind = .function)
    (hop : Opening.ofFunction (docstringReader lexicon) (ofLexemes xs) n = .ok (.opened u)) :
    ∃ value c vs ws ps,
      (ofLexemes xs).docCommentOf n = .ok (some u.commentIndex.toNat) ∧
      (ofLexemes xs).get? u.commentIndex = some u.token ∧
      Literal.readText lexicon u.token.text = .ok value ∧
      docstringReader lexicon u.token.text = .ok u.reading ∧
      u.reading.comment = some c ∧ u.reading.LaidOut value ∧
      (FunctionRule.mk (docstringReader lexicon) ignored exempt).check (ofLexemes xs) n = .ok vs ∧
      (FunctionRule.mk (docstringReader lexicon) ignored exempt).checkBaseline (ofLexemes xs) n =
        .ok ws ∧
      (FunctionRule.mk (docstringReader lexicon) ignored exempt).checkParams u = .ok ps ∧
      (∀ v, v ∈ vs ∨ v ∈ ws →
        u.token.line ≤ v.line ∧ v.line ≤ u.token.line + value.count '\n') ∧
      (ps.map Violation.line).Pairwise (· ≤ ·) := by
  have hs : t.extent.Sound (ofLexemes xs) n :=
    sound_of_token ht (by simp [Token.isDeclaration, hkind])
  have ha : FunctionRule.IsAnchored (ofLexemes xs) n := isAnchored_of_function ht hkind
  cases Opening.found hop with
  | opened _ m k d hindex hd hdoc hcomment hread =>
    obtain rfl := Int.ofNat.inj hindex
    obtain ⟨c, hc⟩ := hread.comment
    obtain ⟨value, hvalue, hlaid, hends⟩ := docstringReader_laidOut hread.reading
    obtain ⟨e, he, -⟩ := hread.exists_evidence ⟨docstringReader lexicon, ignored, exempt⟩ ht hs
    refine ⟨value, c, _, _, _, by rw [hdoc, hcomment]; rfl, hread.tokens ▸ u.token_eq, hvalue,
      hread.reading, hc, hlaid, FunctionRule.check_opened ha hop he,
      FunctionRule.checkBaseline_opened hop he, FunctionRule.checkParams_findings he,
      fun v hv => ?_, ?_⟩
    · have hline : ∀ f, f ∈ e.findings ∨ f ∈ e.baselineFindings →
          u.token.line ≤ (u.violation f).line ∧
            (u.violation f).line ≤ u.token.line + value.count '\n' := fun f hf => by
        have := Evidence.line_of_mem_findings (he.reading ▸ he.comment) (he.reading ▸ hends) hf
        show u.token.line ≤ u.token.line + f.line ∧ u.token.line + f.line ≤ u.token.line + _
        omega
      rcases hv with hv | hv
      · obtain ⟨f, hf, rfl⟩ := List.mem_map.1 hv
        exact hline f (.inl hf)
      · obtain ⟨f, hf, rfl⟩ := List.mem_map.1 hv
        exact hline f (.inr hf)
    · have hsorted := Reading.paramFindings_sorted (he.reading ▸ hlaid.params) e.real e.comment.line
      rw [List.map_map, List.pairwise_map]
      exact (List.pairwise_map.1 hsorted).imp fun h => Int.add_le_add_left h _

/-- The comment of the documented file ends five lines below its token. If no
parameter is passed over, its only tag is in the place of another one. -/
theorem documentedFile_opened : ∃ u value ps,
    Opening.ofFunction (docstringReader .small) (ofLexemes documentedFile) 1 = .ok (.opened u) ∧
    Literal.readText .small u.token.text = .ok value ∧ value.count '\n' = 5 ∧
    u.reading.LaidOut value ∧ u.reading.params.length = 1 ∧
    (FunctionRule.mk (docstringReader .small) [] []).checkParams u = .ok ps ∧
    (ps.map Violation.line).Pairwise (· ≤ ·) := by
  have ht : (ofLexemes documentedFile).tokens[1]? =
      some ⟨.function, "def", 1, 0, ⟨some 8, some 15, some 3, some 7⟩⟩ := by decide
  have hd : (ofLexemes documentedFile).tokens[11]? =
      some ⟨.docComment, oneMore.text, 2, 2, {}⟩ := by decide
  have hop := Opening.ofFunction_of_docComment (docstringReader .small)
    (show (ofLexemes documentedFile).docCommentOf 1 = .ok (some 11) by decide) hd
  simp only [oneMore_wellFormed.docstringReader_text] at hop
  obtain ⟨value, c, -, -, ps, -, -, hvalue, hread, hc, hlaid, -, -, hps, -, hsorted⟩ :=
    opened_lines documentedFile [] [] 1 _ _ ht rfl hop
  have hend := (hlaid.comment c hc).2.2.1
  obtain rfl := Option.some.inj hc
  exact ⟨_, value, ps, hop, hvalue, Int.ofNat.inj hend.symm, hlaid, rfl, hps, hsorted⟩

end DocLint
