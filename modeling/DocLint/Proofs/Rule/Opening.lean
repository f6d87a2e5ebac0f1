import DocLint.Proofs.Comment.Dedent
import DocLint.Proofs.Literal.Quoted
import DocLint.Proofs.Rule.Copy
import DocLint.Proofs.Rule.Finding
import DocLint.Proofs.Token.DocComment

/-!
# Opening a comment

A function whose positions are sound, as they are in the token sequence of every
file, can always be asked for its name, its parameters and its body. So looking
for its comment can fail for one reason only: the reader fails on the text of a
doc comment, and not because it is no text.

Results:
* `exists_declaredName`, `exists_parameterNames`: the signature can be read.
* `Opening.ofFunction_outcome`: what looking for a comment can lead to.
* `Subject.IsRead.exists_evidence`: there is evidence about whatever was read.
* `check_smallFile`: the verdict on a file with one short comment, for later use.
-/
namespace DocLint

open TokenSequence

variable {s : TokenSequence} {n : Nat} {t : Token} {reader : CommentReader}

/-! ## The signature -/

theorem exists_declaredName (ht : s.tokens[n]? = some t) : ∃ name, s.declaredName n = .ok name := by
  simp only [declaredName, findNext_name]
  cases hk : firstIn isName s.tokens (n + 1) s.length with
  | none => exact ⟨"", rfl⟩
  | some k =>
    obtain ⟨-, -, hname, -⟩ := firstIn_eq_some_iff.1 hk
    obtain ⟨u, hu, -⟩ := (Option.any_eq_true ..).1 hname
    simp only [get_natCast ht, get_natCast hu, bind, Except.bind, pure, Except.pure]
    cases t.extent.parenOpener with
    | none => exact ⟨u.text, rfl⟩
    | some opener =>
      simp only
      split
      · exact ⟨"", rfl⟩
      · exact ⟨u.text, rfl⟩

theorem exists_parameterNames (ht : s.tokens[n]? = some t) (hs : t.extent.Sound s n) :
    ∃ names, s.parameterNames n = .ok names := by
  cases hb : t.extent.parenCloser with
  | none => exact ⟨[], parameterNames_of_unclosed ht hb⟩
  | some b =>
    obtain ⟨a, ha, hab, hlt, -⟩ := hs.parenCloser b hb
    have hna := (hs.parenOpener a ha).1
    obtain ⟨a, rfl⟩ := Int.eq_ofNat_of_zero_le (show 0 ≤ a by omega)
    obtain ⟨b, rfl⟩ := Int.eq_ofNat_of_zero_le (show 0 ≤ b by omega)
    exact ⟨_, parameterNames_of_parens ht ha hb (by omega) (by omega)⟩

/-! ## The comment -/

/-- A subject as it comes from reading the comment of the function at `n`. -/
structure Subject.IsRead (reader : CommentReader) (s : TokenSequence) (n : Nat) (u : Subject) :
    Prop where
  tokens : u.tokens = s
  functionIndex : u.functionIndex = n
  reading : reader u.token.text = .ok u.reading
  comment : ∃ c, u.reading.comment = some c

/-- A body that starts with a token has a scope. -/
theorem exists_opener_of_firstBodyToken {i : Int} {j : Nat}
    (h : s.firstBodyToken i = .ok (some j)) :
    ∃ t o, s.get i = .ok t ∧ t.extent.scopeOpener = some o := by
  unfold firstBodyToken at h
  cases ht : s.get i with
  | error fault =>
    rw [ht] at h
    cases h
  | ok t =>
    cases ho : t.extent.scopeOpener with
    | none =>
      simp only [ht, ho, bind, Except.bind, pure, Except.pure] at h
      cases h
    | some o => exact ⟨t, o, rfl, ho⟩

theorem Opening.ofFunction_of_docComment (reader : CommentReader) {j : Nat} {d : Token} {i : Int}
    (hdoc : s.docCommentOf i = .ok (some j)) (hd : s.tokens[j]? = some d) :
    Opening.ofFunction reader s i = match reader d.text with
      | .ok reading =>
        if reading.comment.isSome then
          .ok (.opened ⟨s, i, j, d, reading, (get?_natCast s j).trans hd⟩)
        else do return .closed [← Check.report .commentEmpty s j]
      | .error (.unreadable reason) =>
        do return .closed [← Check.report .commentUnreadable s j [reason.message]]
      | .error fault => .error fault := by
  have hbody := firstBodyToken_of_docCommentOf hdoc
  obtain ⟨t, o, ht, ho⟩ := exists_opener_of_firstBodyToken hbody.1
  unfold Opening.ofFunction
  simp only [ht, ho, hbody.1, hbody.2, Subject.read_eq ((get?_natCast s j).trans hd),
    bind, Except.bind, pure, Except.pure, Option.isNone_some, Bool.false_eq_true, if_false, if_true]
  cases reader d.text with
  | ok reading => rfl
  | error fault => cases fault <;> rfl

/-- A report at a token, with as many arguments as the message takes, does not fail. -/
theorem Check.exists_report (check : Check) {j : Nat} {d : Token} (hd : s.tokens[j]? = some d)
    (args : List String) (h : args.length = check.slots) :
    ∃ v, check.report s j args = .ok v := by
  obtain ⟨message, hmessage⟩ := check.exists_messageOf h
  refine ⟨⟨check.code, message, j, d.line, args⟩, ?_⟩
  simp only [Check.report, Violation.atToken, get_natCast hd, hmessage, bind, Except.bind, pure,
    Except.pure, Option.getD_none]

/-- The checks that fail where there is nothing to check further. -/
def openingChecks : List Check :=
  [.commentMissing, .commentWrongStyle, .commentEmpty, .commentUnreadable]

/-- What looking for a comment can lead to. -/
inductive Opening.Outcome (reader : CommentReader) (s : TokenSequence) (n : Nat) :
    Except Fault Opening → Prop
  | closed (violations : List Violation)
    (h : ∀ v ∈ violations, ∃ check ∈ openingChecks, v.code = check.code) :
    Outcome reader s n (.ok (.closed violations))
  | opened (u : Subject) (h : u.IsRead reader s n) : Outcome reader s n (.ok (.opened u))
  | failed (j : Nat) (d : Token) (hd : s.tokens[j]? = some d) (hkind : d.kind = .docComment)
    (fault : Fault) (hread : reader d.text = .error fault)
    (h : ∀ reason, fault ≠ .unreadable reason) : Outcome reader s n (.error fault)

theorem Opening.ofFunction_outcome (reader : CommentReader) (ht : s.tokens[n]? = some t)
    (hs : t.extent.Sound s n) : Outcome reader s n (Opening.ofFunction reader s n) := by
  cases ho : t.extent.scopeOpener with
  | none =>
    have hclosed : Opening.ofFunction reader s n = .ok (.closed []) := by
      simp only [Opening.ofFunction, get_natCast ht, ho, bind, Except.bind, pure, Except.pure,
        Option.isNone_none, if_true]
    rw [hclosed]
    exact .closed [] (by simp)
  | some o =>
    obtain ⟨c, hc⟩ : ∃ c, t.extent.scopeCloser = some c :=
      Option.isSome_iff_exists.1 (hs.scope_isSome ▸ by simp [ho])
    obtain ⟨-, -, -, header, hheader, -⟩ := hs.scope o c ho hc
    have hdoc := docCommentOf_eq ((get?_natCast s n).trans ht) ho hheader
    generalize (firstIn startsStatement s.tokens _ _).filter s.isDocComment = found at hdoc
    cases found with
    | none =>
      obtain ⟨v, hv, hlacking⟩ := Opening.ofFunction_of_none reader ((get?_natCast s n).trans ht)
        ho hheader hdoc
      rw [hv]
      refine .closed [v] (List.forall_mem_singleton.2 ?_)
      simp only [Violation.saysLacking, Bool.or_eq_true, beq_iff_eq] at hlacking
      rcases hlacking with h | h
      · exact ⟨_, by decide, h⟩
      · exact ⟨_, by decide, h⟩
    | some j =>
      have hmark := (firstBodyToken_of_docCommentOf hdoc).2
      rw [get?_natCast] at hmark
      obtain ⟨d, hd, hkind⟩ := (Option.any_eq_true ..).1 hmark
      rw [Opening.ofFunction_of_docComment reader hdoc hd]
      cases hread : reader d.text with
      | ok reading =>
        simp only
        split
        · next hcomment =>
          exact .opened _ ⟨rfl, rfl, hread, Option.isSome_iff_exists.1 hcomment⟩
        · obtain ⟨v, hv⟩ := Check.exists_report .commentEmpty hd [] rfl
          rw [hv]
          exact .closed [v] (List.forall_mem_singleton.2 ⟨_, by decide, Opening.code_of_report hv⟩)
      | error fault =>
        cases fault with
        | unreadable reason =>
          obtain ⟨v, hv⟩ := Check.exists_report .commentUnreadable hd [reason.message] rfl
          simp only [hv]
          exact .closed [v] (List.forall_mem_singleton.2 ⟨_, by decide, Opening.code_of_report hv⟩)
        | _ => exact .failed j d hd (beq_iff_eq.1 hkind) _ hread (by simp)

theorem isAnchored_of_openTag (h : s.tokens[0]?.any (·.kind == .openTag) = true) (hn : 0 < n) :
    FunctionRule.IsAnchored s n := by
  rw [FunctionRule.IsAnchored, ← Option.not_isNone, FunctionRule.isNone_findPrevious h hn]
  rfl

theorem isAnchored_of_function {xs : List Lexeme} (ht : (ofLexemes xs).tokens[n]? = some t)
    (hkind : t.kind = .function) : FunctionRule.IsAnchored (ofLexemes xs) n := by
  rcases exists_lexeme_of_token ht with ⟨-, rfl⟩ | ⟨i, x, hx, hk, rfl, -⟩
  · cases hkind
  · exact isAnchored_of_openTag (by rw [getElem?_ofLexemes_zero (any_isKept hx hk)]; rfl)
      (place_pos xs i)

theorem FunctionRule.runSteps_closed {rule : FunctionRule} {i : Int} {vs : List Violation}
    (h : Opening.ofFunction rule.reader s i = .ok (.closed vs))
    (steps : List (Subject → Except Fault (List Violation))) :
    rule.runSteps s i steps = .ok vs := by
  simp only [runSteps, h, bind, Except.bind, pure, Except.pure]

/-! ## The evidence -/

theorem Subject.IsRead.exists_evidence {u : Subject} (h : u.IsRead reader s n)
    (rule : FunctionRule) (ht : s.tokens[n]? = some t) (hs : t.extent.Sound s n) :
    ∃ e, u.Gives rule e ∧ e.returnsValue = s.functionReturns t := by
  obtain ⟨c, hc⟩ := h.comment
  obtain ⟨name, hname⟩ := exists_declaredName ht
  obtain ⟨names, hnames⟩ := exists_parameterNames ht hs
  refine ⟨⟨u.reading, c, names.filter fun name => !rule.ignoredParams.contains name,
    rule.exemptFunctions.contains name, s.functionReturns t⟩, ⟨rfl, hc, ?_, ?_, ?_⟩, rfl⟩
  · simp only [FunctionRule.realParams, h.tokens, h.functionIndex, hnames, bind, Except.bind, pure,
      Except.pure]
  · exact ⟨name, by rw [h.tokens, h.functionIndex, hname], rfl⟩
  · exact ⟨t, by rw [h.tokens, h.functionIndex, get_natCast ht], by rw [h.tokens]⟩

/-! ## The small file -/

theorem readText_smallFile (lexicon : Literal.Lexicon) :
    Literal.readText lexicon "'d'" = .ok ['d'] :=
  Literal.readText_quoted [] '\'' ['d', '\''] ['d'] (by decide) (by decide) (by decide) rfl
    (by simp [Literal.isRaw, Literal.QuoteFlags.quotation?, Literal.unescape])

/-- The description of the small file starts with a lower-case letter, and that is
all there is to say about it. -/
theorem check_smallFile (lexicon : Literal.Lexicon) :
    (FunctionRule.mk (docstringReader lexicon) [] []).check (ofLexemes smallFile) 1 =
      .ok [⟨Check.commentNotCapitalized.code, Check.commentNotCapitalized.template, 8, 2, []⟩] := by
  have hdocstring : docstringReader lexicon "'d'" = .ok
      { comment := some { content := "d", line := 0, shortDescription := "d" } } := by
    rw [docstringReader_eq (readText_smallFile lexicon)]
    decide
  have hop := Opening.ofFunction_of_docComment (docstringReader lexicon)
    (show (ofLexemes smallFile).docCommentOf 1 = .ok (some 8) by decide)
    (show (ofLexemes smallFile).tokens[8]? = some ⟨.docComment, "'d'", 2, 2, {}⟩ by decide)
  simp only [hdocstring, Option.isSome_some, if_true] at hop
  have ha : FunctionRule.IsAnchored (ofLexemes smallFile) 1 :=
    isAnchored_of_openTag (by decide) Nat.one_pos
  rw [FunctionRule.check_eq_runSteps ha, FunctionRule.runSteps]
  simp only
  rw [hop]
  rfl

end DocLint
