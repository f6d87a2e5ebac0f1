import DocLint.Proofs.Rule.Opening
import DocLint.Proofs.Token.Padding

/-!
# Blank lines and comments above a doc comment do not change the verdict

Once the doc comment of a function has been found, a check asks for its text and
its line, for the function's name and parameters, and for its returns. Two
functions with the same answers get the same verdict, apart from the position of
the comment. Blank lines and comments between the header line and the doc comment
change none of the answers.

Results:
* `FunctionRule.check_sameComment`: two functions with the same answers.
* `FunctionRule.check_padded`: a function with blank lines and comments put in
  above its doc comment.
-/
namespace DocLint

open TokenSequence

/-- The functions at `i` in `s` and at `i'` in `s'` have doc comments with the given
text, that in `s'` being `m` positions further on, and everything else that a check
asks for is the same. -/
structure SameComment (s s' : TokenSequence) (m i i' : Nat) (text : String) : Prop where
  anchored : FunctionRule.IsAnchored s i ∧ FunctionRule.IsAnchored s' i'
  comment : ∃ j d d', s.docCommentOf i = .ok (some j) ∧ s'.docCommentOf i' = .ok (some (m + j)) ∧
    s.tokens[j]? = some d ∧ s'.tokens[m + j]? = some d' ∧ d.Alike d' ∧ d.text = text
  parameterNames : s'.parameterNames i' = s.parameterNames i
  declaredName : s'.declaredName i' = s.declaredName i
  returns : ∃ t t', s.tokens[i]? = some t ∧ s'.tokens[i']? = some t' ∧ t.extent.Sound s i ∧
    s'.functionReturns t' = s.functionReturns t

/-- Two verdicts that are the same, up to the position of the comment: both times there
are violations, or the reader fails on the text, and not because it is unreadable. -/
inductive SameVerdict (reader : CommentReader) (text : String) (m : Nat) :
    Except Fault (List Violation) → Except Fault (List Violation) → Prop
  | found (vs : List Violation) : SameVerdict reader text m (.ok vs)
      (.ok (vs.map (Violation.shift m)))
  | failed (fault : Fault) (hread : reader text = .error fault)
      (h : ∀ reason, fault ≠ .unreadable reason) :
      SameVerdict reader text m (.error fault) (.error fault)

namespace FunctionRule

variable (rule : FunctionRule) {s s' : TokenSequence} {m i i' : Nat} {text : String}

theorem runSteps_failed {rule : FunctionRule} {n : Int} {fault : Fault}
    (h : Opening.ofFunction rule.reader s n = .error fault)
    (steps : List (Subject → Except Fault (List Violation))) :
    rule.runSteps s n steps = .error fault := by
  simp only [runSteps, h, bind, Except.bind]

/-- Comments that are not checked further, since there is one complaint about both. -/
theorem check_closed (check : Check) (ha : IsAnchored s i) (ha' : IsAnchored s' i')
    {args : List String} (hfits : args.length = check.slots) {j : Nat} {d d' : Token}
    (hd : s.tokens[j]? = some d) (hd' : s'.tokens[m + j]? = some d') (hline : d.line = d'.line)
    (hop : Opening.ofFunction rule.reader s i = do
      return .closed [← check.report s j args])
    (hop' : Opening.ofFunction rule.reader s' i' = do
      return .closed [← check.report s' ((m + j : Nat) : Int) args]) :
    SameVerdict rule.reader text m (rule.check s i) (rule.check s' i') := by
  obtain ⟨v, hv⟩ := check.exists_report hd args hfits
  rw [check.report_copy hd hd' hline, hv] at hop'
  rw [hv] at hop
  rw [check_eq_runSteps ha, check_eq_runSteps ha', runSteps_closed hop, runSteps_closed hop']
  exact .found [v]

/-- Comments that have been read: the same evidence makes the same findings. -/
theorem check_read (h : SameComment s s' m i i' text) {u u' : Subject}
    (hu : u.IsRead rule.reader s i) (hu' : u'.IsRead rule.reader s' i')
    (hreading : u'.reading = u.reading) (hline : u'.token.line = u.token.line)
    (hindex : u'.commentIndex = m + u.commentIndex)
    (hop : Opening.ofFunction rule.reader s i = .ok (.opened u))
    (hop' : Opening.ofFunction rule.reader s' i' = .ok (.opened u')) :
    SameVerdict rule.reader text m (rule.check s i) (rule.check s' i') := by
  obtain ⟨t, t', ht, ht', hsound, hreturns⟩ := h.returns
  obtain ⟨e, hgives, hvalue⟩ := hu.exists_evidence rule ht hsound
  have hgives' : u'.Gives rule e := by
    refine ⟨hreading.trans hgives.reading, by rw [hreading, hgives.comment], ?_, ?_, t', ?_, ?_⟩
    · rw [← hgives.real, realParams, realParams, hu.tokens, hu'.tokens, hu.functionIndex,
        hu'.functionIndex, h.parameterNames]
    · obtain ⟨name, hname, hexempt⟩ := hgives.exempt
      rw [hu.tokens, hu.functionIndex] at hname
      exact ⟨name, by rw [hu'.tokens, hu'.functionIndex, h.declaredName, hname], hexempt⟩
    · rw [hu'.tokens, hu'.functionIndex, get_natCast ht']
    · rw [hu'.tokens, hreturns, hvalue]
  have hviolation : ∀ f : Finding, u'.violation f = (u.violation f).shift m := by
    intro f
    simp only [Subject.violation, Subject.lineOf, Violation.shift, hline, hindex]
  have hviolations : e.findings.map u'.violation =
      (e.findings.map u.violation).map (Violation.shift m) := by
    rw [List.map_map]
    exact List.map_congr_left fun f _ => hviolation f
  rw [check_opened h.anchored.1 hop hgives, check_opened h.anchored.2 hop' hgives', hviolations]
  exact .found _

/-- Functions with the same answers get the same verdict. -/
theorem check_sameComment (h : SameComment s s' m i i' text) :
    SameVerdict rule.reader text m (rule.check s i) (rule.check s' i') := by
  obtain ⟨j, d, d', hdoc, hdoc', hd, hd', halike, rfl⟩ := h.comment
  have hop := Opening.ofFunction_of_docComment rule.reader hdoc hd
  have hop' := Opening.ofFunction_of_docComment rule.reader hdoc' hd'
  rw [← halike.text] at hop'
  cases hread : rule.reader d.text with
  | error fault =>
    simp only [hread] at hop hop'
    cases fault with
    | unreadable reason =>
      exact rule.check_closed .commentUnreadable h.anchored.1 h.anchored.2 rfl hd hd'
        halike.line hop hop'
    | _ =>
      rw [check_eq_runSteps h.anchored.1, check_eq_runSteps h.anchored.2, runSteps_failed hop,
        runSteps_failed hop']
      exact .failed _ hread (by simp)
  | ok reading =>
    simp only [hread] at hop hop'
    cases hcomment : reading.comment with
    | none =>
      simp only [hcomment, Option.isSome_none, Bool.false_eq_true, if_false] at hop hop'
      exact rule.check_closed .commentEmpty h.anchored.1 h.anchored.2 rfl hd hd' halike.line
        hop hop'
    | some c =>
      simp only [hcomment, Option.isSome_some, if_true] at hop hop'
      have hu : Subject.IsRead rule.reader s i ⟨s, i, j, d, reading, (get?_natCast s j).trans hd⟩ :=
        ⟨rfl, rfl, hread, c, hcomment⟩
      have hu' : Subject.IsRead rule.reader s' i'
          ⟨s', i', (m + j : Nat), d', reading, (get?_natCast s' (m + j)).trans hd'⟩ :=
        ⟨rfl, rfl, by rw [← hread, halike.text], c, hcomment⟩
      exact rule.check_read h hu hu' rfl halike.line.symm (Int.natCast_add m j) hop hop'

end FunctionRule

/-! ## Padding -/

theorem isAnchored_of_declaration {xs : List Lexeme} {k : Nat} (hk : k ∈ declarations xs) :
    FunctionRule.IsAnchored (ofLexemes xs) (place xs k) := by
  obtain ⟨x, hx, hd⟩ := mem_declarations.1 hk
  refine isAnchored_of_openTag ?_ (place_pos xs k)
  rw [getElem?_ofLexemes_zero (any_isKept hx (Lexeme.isKept_of_isDeclaration hd))]
  rfl

namespace DocPadding

variable (p : DocPadding)

theorem functionReturns_padded {t t' : Token}
    (he : t.extent = (Layout.ofDeclaration p.plain p.keyword).toExtent p.plain)
    (he' : t'.extent = { t.extent with scopeCloser := some ((p.count + p.closer : Nat) : Int) }) :
    (ofLexemes p.padded).functionReturns t' = (ofLexemes p.plain).functionReturns t := by
  have ho : t.extent.scopeOpener = some (place p.plain p.opener : Int) := by
    rw [he, Layout.toExtent, p.opener_eq]
    rfl
  have hc : t.extent.scopeCloser = some (p.closer : Int) := by
    rw [he, Layout.toExtent, Layout.scopeCloser_ofDeclaration, p.opener_eq]
    rfl
  simp only [functionReturns, he', ho, hc]
  exact p.returnsValue_padded

/-- The function in the file as it was, and in the file with more above its doc comment. -/
theorem sameComment : SameComment (ofLexemes p.plain) (ofLexemes p.padded) p.count
    (place p.plain p.keyword) (place p.plain p.keyword) p.string.text := by
  obtain ⟨t, t', ht, ht', he, he'⟩ := p.exists_function
  obtain ⟨hdoc, hdoc'⟩ := p.docComment_padded
  have hanchored := isAnchored_of_declaration p.declares_padded
  rw [p.place_keyword] at hanchored
  have hd := getElem?_ofLexemes_place p.getElem?_doc (Lexeme.isKept_of_string p.string_type)
  obtain ⟨d, d', hd₁, hd', halike⟩ := p.sameTail _ (Nat.le_refl _)
    (show place p.plain p.doc ≤ _ by
      have := p.place_order
      omega)
  obtain rfl : d = _ := Option.some.inj (hd₁.symm.trans hd)
  refine ⟨⟨isAnchored_of_declaration p.declares, hanchored⟩,
    ⟨_, _, d', hdoc, hdoc', hd, hd', halike, rfl⟩, p.parameterNames_padded,
    p.declaredName_padded, t, t', ht, ht', ?_, p.functionReturns_padded he he'⟩
  obtain ⟨x, hx, hdecl⟩ := mem_declarations.1 p.declares
  rw [he]
  exact extent_sound hx (Lexeme.isKept_of_isDeclaration hdecl) p.sound

end DocPadding

/-- Blank lines and comments above a doc comment never change its verdict. Between the
end of the header line of a declaration and the string that documents it, any `n` of
them may be put in, also before the indent: the declaration keeps its place, and a
check gives the same violations in the same order, with every token index moved by `n`.
It fails in neither file, unless the reader fails on the text of the string, and not
because that is unreadable; then it fails with the reader's fault in both. -/
theorem FunctionRule.check_padded (rule : FunctionRule) (xs ys front gap gap' rest : List Lexeme)
    (newline string : Lexeme) (n k o : Nat) (hpads : Padded n gap gap')
    (hxs : xs = front ++ newline :: (gap ++ string :: rest))
    (hys : ys = front ++ newline :: (gap' ++ string :: rest))
    (hnewline : newline.type = .newline) (hk : k ∈ declarations xs)
    (ho : (Layout.ofDeclaration xs k).scopeOpener = some o) (hlt : o < front.length)
    (hdoc : (Layout.ofDeclaration xs k).docString? xs = some (front.length + 1 + gap.length)) :
    place ys k = place xs k ∧
    ((∃ violations, rule.check (ofLexemes xs) (place xs k) = .ok violations ∧
      rule.check (ofLexemes ys) (place ys k) = .ok (violations.map (Violation.shift n))) ∨
    ∃ fault, rule.reader string.text = .error fault ∧ (∀ reason, fault ≠ .unreadable reason) ∧
      rule.check (ofLexemes xs) (place xs k) = .error fault ∧
      rule.check (ofLexemes ys) (place ys k) = .error fault) := by
  let q : Padding := ⟨front ++ [newline], gap, gap', string, rest, n, hpads⟩
  have hplain : xs = q.plain := by simp [hxs, q, Padding.plain]
  have hpadded : ys = q.padded := by simp [hys, q, Padding.padded]
  have hend : (front ++ [newline])[front.length]? = some newline := by simp
  rw [hplain] at hk ho hdoc
  rw [show front.length + 1 + gap.length = q.doc by simp [q, Padding.doc]] at hdoc
  let p : DocPadding := ⟨q, k, o, hk, ho, hdoc, front.length, newline, hlt, hend, hnewline⟩
  have hplace : place q.padded k = place q.plain k := p.place_keyword
  have hsame : SameVerdict rule.reader string.text n
      (rule.check (ofLexemes q.plain) (place q.plain k))
      (rule.check (ofLexemes q.padded) (place q.plain k)) := rule.check_sameComment p.sameComment
  rw [hplain, hpadded, hplace]
  refine ⟨rfl, ?_⟩
  generalize rule.check (ofLexemes q.plain) (place q.plain k) = verdict at hsame ⊢
  generalize rule.check (ofLexemes q.padded) (place q.plain k) = verdict' at hsame ⊢
  cases hsame with
  | found violations => exact .inl ⟨violations, rfl, rfl⟩
  | failed fault hread h => exact .inr ⟨fault, hread, h, rfl, rfl⟩

/-- The small file with a comment before its indent, said to be on the header line, and
with a blank line and a comment after it. -/
def paddedSmallFile : List Lexeme :=
  [⟨.encoding, "utf-8", 0, 0⟩, ⟨.name, "def", 1, 0⟩, ⟨.name, "f", 1, 4⟩, ⟨.operator, "(", 1, 5⟩,
    ⟨.operator, ")", 1, 6⟩, ⟨.operator, ":", 1, 7⟩, ⟨.newline, "\n", 1, 8⟩, ⟨.comment, "#", 1, 9⟩,
    ⟨.indent, "  ", 2, 0⟩, ⟨.lineBreak, "\n", 2, 0⟩, ⟨.comment, "# c", 2, 2⟩,
    ⟨.string, "'d'", 2, 2⟩, ⟨.newline, "\n", 2, 5⟩, ⟨.dedent, "", 3, 0⟩, ⟨.endMarker, "", 3, 0⟩]

/-- The complaint about the description moves down by three tokens. -/
theorem smallFile_check_padded :
    Padded 3 [⟨.indent, "  ", 2, 0⟩] [⟨.comment, "#", 1, 9⟩, ⟨.indent, "  ", 2, 0⟩,
      ⟨.lineBreak, "\n", 2, 0⟩, ⟨.comment, "# c", 2, 2⟩] ∧
    1 ∈ declarations smallFile ∧
    (Layout.ofDeclaration smallFile 1).scopeOpener = some 5 ∧
    (Layout.ofDeclaration smallFile 1).docString? smallFile = some 8 ∧
    (FunctionRule.mk (docstringReader .small) [] []).check (ofLexemes paddedSmallFile) (1 : Nat) =
      .ok [⟨"MissingCommentUpper", "Comment must start with an uppercase", 11, 2, []⟩] := by
  have hpads : Padded 3 [⟨.indent, "  ", 2, 0⟩] [⟨.comment, "#", 1, 9⟩, ⟨.indent, "  ", 2, 0⟩,
      ⟨.lineBreak, "\n", 2, 0⟩, ⟨.comment, "# c", 2, 2⟩] :=
    .put _ rfl (.keep _ (.put _ rfl (.put _ rfl .nil)))
  have hk : 1 ∈ declarations smallFile := by decide
  have ho : (Layout.ofDeclaration smallFile 1).scopeOpener = some 5 := by decide
  have hdoc : (Layout.ofDeclaration smallFile 1).docString? smallFile = some 8 := by decide
  refine ⟨hpads, hk, ho, hdoc, ?_⟩
  obtain ⟨hplace, h⟩ := (FunctionRule.mk (docstringReader .small) [] []).check_padded smallFile
    paddedSmallFile (smallFile.take 6) _ _ (smallFile.drop 9) ⟨.newline, "\n", 1, 8⟩
    ⟨.string, "'d'", 2, 2⟩ 3 1 5 hpads rfl rfl rfl hk ho (by decide) hdoc
  have hplain : place smallFile 1 = 1 := by decide
  rw [hplace, hplain] at h
  rcases h with ⟨violations, hfound, h⟩ | ⟨fault, hread, -⟩
  · obtain rfl := Except.ok.inj ((check_smallFile .small).symm.trans hfound)
    exact h
  · cases (docstringReader_eq (readText_smallFile .small)).symm.trans hread

end DocLint
