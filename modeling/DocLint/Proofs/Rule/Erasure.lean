import DocLint.Proofs.Comment.Reindent
import DocLint.Proofs.Comment.Written
import DocLint.Proofs.Rule.Opening
import DocLint.Proofs.Steps

/-!
# What only reading sees

The text of a doc comment is seen by the reader of comments and by nothing else.
So every other part of a check gives the same answer for a token sequence from
which these texts have been erased, and two sequences that differ in nothing
else, and from which the same is read, get the same verdicts.

Results:
* `declaredName_erased`, `parameterNames_erased`, `returnsValue_erased`,
  `firstBodyToken_erased`, `report_erased`: the parts of a check that do not read.
* `FunctionRule.check_readAlike`: two sequences from which the same is read.
* `reindented_agree`: a comment that is indented further.
-/
namespace DocLint

/-! ## Erasing the texts of doc comments -/

/-- A token without its text, if that is the text of a doc comment. -/
def Token.erased (t : Token) : Token := if t.kind = .docComment then { t with text := "" } else t

namespace Token

variable (t : Token)

@[simp] theorem kind_erased : t.erased.kind = t.kind := by
  unfold erased
  split <;> rfl

@[simp] theorem line_erased : t.erased.line = t.line := by
  unfold erased
  split <;> rfl

@[simp] theorem extent_erased : t.erased.extent = t.extent := by
  unfold erased
  split <;> rfl

theorem erased_of_ne {t : Token} (h : t.kind ≠ .docComment) : t.erased = t := if_neg h

@[simp] theorem isOperator_erased (text : String) :
    t.erased.isOperator text = t.isOperator text := by
  by_cases h : t.kind = .docComment
  · unfold isOperator
    rw [kind_erased, h]
    rfl
  · rw [erased_of_ne h]

@[simp] theorem opensBracket_erased : t.erased.opensBracket = t.opensBracket := by
  simp only [opensBracket, isOperator_erased]

@[simp] theorem closesBracket_erased : t.erased.closesBracket = t.closesBracket := by
  simp only [closesBracket, isOperator_erased]

end Token

/-- A doc comment between the parentheses is no name, whatever its text is. -/
theorem ParameterScan.step_erased (scan : ParameterScan) (t : Token) :
    scan.step t.erased = scan.step t := by
  by_cases h : t.kind = .docComment
  · unfold step stepInside
    simp [h]
  · rw [Token.erased_of_ne h]

theorem ParameterScan.run_erased (scan : ParameterScan) (ts : List Token) :
    scan.run (ts.map Token.erased) = scan.run ts := by
  unfold run
  rw [List.foldl_map]
  simp only [step_erased]

namespace TokenSequence

/-- A sequence without the texts of its doc comments. -/
def erased (s : TokenSequence) : TokenSequence := ⟨s.tokens.map Token.erased⟩

variable (s : TokenSequence)

@[simp] theorem length_erased : s.erased.length = s.length := List.length_map _

theorem getElem?_erased (i : Nat) : s.erased.tokens[i]? = s.tokens[i]?.map Token.erased :=
  List.getElem?_map

theorem get?_erased (i : Int) : s.erased.get? i = (s.get? i).map Token.erased := by
  unfold get?
  split
  · exact s.getElem?_erased _
  · rfl

theorem get_erased (i : Int) : s.erased.get i = (s.get i).map Token.erased := by
  unfold get
  rw [get?_erased, length_erased]
  cases s.get? i <;> rfl

theorem any_erased {p : Token → Bool} (hp : ∀ t, p t.erased = p t) (i : Nat) :
    s.erased.tokens[i]?.any p = s.tokens[i]?.any p := by
  rw [getElem?_erased, Option.any_map]
  congr 1
  funext t
  exact hp t

theorem any_kind_erased (p : TokenKind → Bool) (i : Nat) :
    s.erased.tokens[i]?.any (fun t => p t.kind) = s.tokens[i]?.any fun t => p t.kind :=
  s.any_erased (fun t => by rw [Token.kind_erased]) i

theorem findNextBy_erased {p : Token → Bool} (hp : ∀ t, p t.erased = p t) (start : Int)
    (stop : Option Int) : s.erased.findNextBy p start stop = s.findNextBy p start stop := by
  simp only [findNextBy, firstIn, length_erased, s.any_erased hp]

theorem findNext_erased (test : KindTest) (start : Int) (stop : Option Int) :
    s.erased.findNext test start stop = s.findNext test start stop :=
  s.findNextBy_erased (fun t => by rw [Token.kind_erased]) start stop

theorem findPrevious_erased (test : KindTest) (start : Int) (stop : Option Int) :
    s.erased.findPrevious test start stop = s.findPrevious test start stop := by
  simp only [findPrevious, lastIn, length_erased, s.any_kind_erased test.accepts]

/-! ## What the checks ask of a sequence -/

theorem declaredName_erased (i : Int) : s.erased.declaredName i = s.declaredName i := by
  unfold declaredName
  rw [findNext_erased]
  cases hfound : s.findNext (.oneOf [.name]) (i + 1) with
  | none => rfl
  | some found =>
    -- What is found is a name, so its text is still there.
    have hget : ∃ t, s.get found = .ok t ∧ s.erased.get found = .ok t := by
      rw [findNext, findNextBy_eq] at hfound
      obtain ⟨-, -, hname, -⟩ := firstIn_eq_some_iff.1 hfound
      obtain ⟨t, ht, hkind⟩ := (Option.any_eq_true ..).1 hname
      have hne : t.kind ≠ .docComment := by
        intro h
        simp [KindTest.accepts, h] at hkind
      refine ⟨t, get_natCast ht, ?_⟩
      rw [get_erased, get_natCast ht, Except.map, Token.erased_of_ne hne]
    obtain ⟨u, hu, hu'⟩ := hget
    simp only [hu, hu']
    rw [get_erased]
    cases s.get i with
    | error fault => rfl
    | ok t => simp only [Except.map, bind, Except.bind, pure, Except.pure, Token.extent_erased]

theorem getFromEnds?_erased (i : Int) :
    s.erased.getFromEnds? i = (s.getFromEnds? i).map Token.erased := by
  unfold getFromEnds?
  rw [length_erased]
  split
  · exact s.getElem?_erased _
  · split
    · exact s.getElem?_erased _
    · rfl

theorem span_erased (first last : Int) :
    s.erased.span first last = (s.span first last).map (List.map Token.erased) := by
  unfold span
  rw [length_erased]
  split
  · rfl
  · split
    · rfl
    · simp only [Except.map, List.map_filterMap, getFromEnds?_erased]

theorem parameterNames_erased (i : Int) : s.erased.parameterNames i = s.parameterNames i := by
  unfold parameterNames
  rw [get_erased]
  cases s.get i with
  | error fault => rfl
  | ok t =>
    simp only [Except.map, bind, Except.bind, Token.extent_erased, span_erased]
    split
    · cases s.span _ _ with
      | error fault => rfl
      | ok ts => simp only [pure, Except.pure, ParameterScan.run_erased]
    · rfl

theorem givesValue_erased (i : Int) : s.erased.givesValue i = s.givesValue i := by
  unfold givesValue
  rw [findNext_erased]
  split
  · rfl
  · rw [get?_erased, Option.any_map]
    congr 1
    funext t
    simp

theorem returnsValue_erased (first last : Int) :
    s.erased.returnsValue first last = s.returnsValue first last := by
  simp only [returnsValue, length_erased, givesValue_erased,
    s.any_kind_erased (· == .returnKeyword)]

theorem hasKind_erased (kind : TokenKind) (i : Int) :
    (s.erased.get? i).any (·.kind == kind) = (s.get? i).any (·.kind == kind) := by
  rw [get?_erased, Option.any_map]
  congr 1
  funext t
  simp

theorem firstBodyToken_erased (i : Int) : s.erased.firstBodyToken i = s.firstBodyToken i := by
  unfold firstBodyToken
  rw [get_erased]
  cases s.get i with
  | error fault => rfl
  | ok t =>
    simp only [Except.map, bind, Except.bind, Token.extent_erased]
    cases t.extent.scopeOpener with
    | none => rfl
    | some opener =>
      simp only [get_erased]
      cases s.get opener with
      | error fault => rfl
      | ok header =>
        have hbody : ∀ t : Token, startsBody header.line t.erased = startsBody header.line t := by
          simp [startsBody, isBodySkip]
        have hfirst : ∀ start stop, s.erased.findNextBy
            (fun t => !isBodySkip t && !(t.kind == .comment && t.line == header.line)) start stop =
              s.findNextBy
                (fun t => !isBodySkip t && !(t.kind == .comment && t.line == header.line)) start
                stop := fun start stop => s.findNextBy_erased hbody start stop
        simp only [Except.map, Token.line_erased, hfirst, findNext_erased, hasKind_erased]

end TokenSequence

theorem Check.report_erased (check : Check) (s : TokenSequence) (i : Int) (args : List String)
    (line : Option Int) : check.report s.erased i args line = check.report s i args line := by
  unfold report Violation.atToken
  rw [TokenSequence.get_erased]
  cases s.get i with
  | error fault => rfl
  | ok t => simp only [Except.map, bind, Except.bind, Token.line_erased]

/-! ## Two sequences from which the same is read -/

/-- Two sequences that differ in the texts of doc comments only, and a reader that
reads the same from them. -/
structure TokenSequence.ReadAlike (reader : CommentReader) (s s' : TokenSequence) : Prop where
  erased : s'.erased = s.erased
  reading : ∀ (j : Nat) (d d' : Token), s.tokens[j]? = some d → s'.tokens[j]? = some d' →
    d.kind = .docComment → reader d'.text = reader d.text

namespace TokenSequence.ReadAlike

variable {reader : CommentReader} {s s' : TokenSequence}

/-- Whatever can be told after erasing is the same for both. -/
theorem eq_of_erased {α : Type} (h : s.ReadAlike reader s') (f : TokenSequence → α)
    (hf : ∀ s, f s.erased = f s) : f s' = f s := by
  rw [← hf s', h.erased, hf s]

theorem declaredName_eq (h : s.ReadAlike reader s') (i : Int) :
    s'.declaredName i = s.declaredName i :=
  h.eq_of_erased (·.declaredName i) fun s => s.declaredName_erased i

theorem parameterNames_eq (h : s.ReadAlike reader s') (i : Int) :
    s'.parameterNames i = s.parameterNames i :=
  h.eq_of_erased (·.parameterNames i) fun s => s.parameterNames_erased i

theorem returnsValue_eq (h : s.ReadAlike reader s') (first last : Int) :
    s'.returnsValue first last = s.returnsValue first last :=
  h.eq_of_erased (·.returnsValue first last) fun s => s.returnsValue_erased first last

theorem firstBodyToken_eq (h : s.ReadAlike reader s') (i : Int) :
    s'.firstBodyToken i = s.firstBodyToken i :=
  h.eq_of_erased (·.firstBodyToken i) fun s => s.firstBodyToken_erased i

theorem hasKind_eq (h : s.ReadAlike reader s') (kind : TokenKind) (i : Int) :
    (s'.get? i).any (·.kind == kind) = (s.get? i).any (·.kind == kind) :=
  h.eq_of_erased (fun s => (s.get? i).any (·.kind == kind)) fun s => s.hasKind_erased kind i

theorem findPrevious_eq (h : s.ReadAlike reader s') (test : KindTest) (i : Int) :
    s'.findPrevious test i = s.findPrevious test i :=
  h.eq_of_erased (·.findPrevious test i) fun s => s.findPrevious_erased test i none

theorem report_eq (h : s.ReadAlike reader s') (check : Check) (i : Int) (args : List String)
    (line : Option Int) : check.report s' i args line = check.report s i args line :=
  h.eq_of_erased (check.report · i args line) fun s => check.report_erased s i args line

/-- Where the one has a doc comment, the other has one from which the same is read. -/
theorem exists_docComment (h : s.ReadAlike reader s') {j : Nat} {d : Token}
    (hd : s.tokens[j]? = some d) (hkind : d.kind = .docComment) :
    ∃ d', s'.tokens[j]? = some d' ∧ d'.line = d.line ∧ reader d'.text = reader d.text := by
  have hsame := s'.getElem?_erased j
  rw [h.erased, s.getElem?_erased, hd] at hsame
  obtain ⟨d', hd', herased⟩ := Option.map_eq_some_iff.1 hsame.symm
  have hline := congrArg Token.line herased
  rw [Token.line_erased, Token.line_erased] at hline
  exact ⟨d', hd', hline, h.reading j d d' hd hd' hkind⟩

/-- Reading a token by its index fails for both, or gives tokens with the same extent. -/
theorem get_cases (h : s.ReadAlike reader s') (i : Int) :
    (∃ fault, s.get i = .error fault ∧ s'.get i = .error fault) ∨
      ∃ t t', s.get i = .ok t ∧ s'.get i = .ok t' ∧ t'.extent = t.extent := by
  have hsame : (s'.get i).map Token.erased = (s.get i).map Token.erased := by
    rw [← get_erased, h.erased, get_erased]
  cases hs : s.get i with
  | error fault =>
    cases hs' : s'.get i with
    | error fault' =>
      rw [hs, hs'] at hsame
      cases hsame
      exact .inl ⟨fault, rfl, rfl⟩
    | ok t' =>
      rw [hs, hs'] at hsame
      cases hsame
  | ok t =>
    cases hs' : s'.get i with
    | error fault' =>
      rw [hs, hs'] at hsame
      cases hsame
    | ok t' =>
      rw [hs, hs'] at hsame
      have hextent := congrArg Token.extent (Except.ok.inj hsame)
      rw [Token.extent_erased, Token.extent_erased] at hextent
      exact .inr ⟨t, t', rfl, rfl, hextent⟩

end TokenSequence.ReadAlike

/-- Two subjects that are the same function, in sequences from which the same is
read. -/
structure Subject.Alike (reader : CommentReader) (u u' : Subject) : Prop where
  tokens : u.tokens.ReadAlike reader u'.tokens
  functionIndex : u'.functionIndex = u.functionIndex
  commentIndex : u'.commentIndex = u.commentIndex
  line : u'.token.line = u.token.line
  reading : u'.reading = u.reading

namespace Subject.Alike

variable {reader : CommentReader} {u u' : Subject}

theorem report_eq (h : u.Alike reader u') (check : Check) (args : List String)
    (line : Option Int) : u'.report check args line = u.report check args line := by
  unfold Subject.report
  rw [h.commentIndex, h.tokens.report_eq]

theorem lineOf_eq (h : u.Alike reader u') (line : Int) : u'.lineOf line = u.lineOf line := by
  simp only [Subject.lineOf, h.line]

theorem comment_eq (h : u.Alike reader u') (member : String) :
    u'.comment member = u.comment member := by
  simp only [Subject.comment, h.reading]

theorem inherits_eq (h : u.Alike reader u') : u'.inherits = u.inherits := by
  simp only [Subject.inherits, h.comment_eq]

theorem checkDescription_eq (h : u.Alike reader u') :
    u'.checkDescription = u.checkDescription := by
  simp only [Subject.checkDescription, h.comment_eq, h.report_eq, h.lineOf_eq]

theorem checkTag_eq (h : u.Alike reader u') (position : Nat) (real : Option String)
    (tag : ParamTag) : u'.checkTag position real tag = u.checkTag position real tag := by
  simp only [Subject.checkTag, h.report_eq, h.lineOf_eq]

theorem checkCapital_eq (h : u.Alike reader u') : u'.checkCapital = u.checkCapital := by
  simp only [Subject.checkCapital, h.comment_eq, h.report_eq, h.lineOf_eq]

end Subject.Alike

namespace FunctionRule

variable {rule : FunctionRule} {u u' : Subject} {s s' : TokenSequence}

theorem checkParams_alike (h : u.Alike rule.reader u') :
    rule.checkParams u' = rule.checkParams u := by
  simp only [checkParams, realParams, h.functionIndex, h.tokens.parameterNames_eq, h.reading,
    h.checkTag_eq, h.comment_eq, h.report_eq, h.lineOf_eq]

theorem checkReturn_alike (h : u.Alike rule.reader u') :
    rule.checkReturn u' = rule.checkReturn u := by
  simp only [checkReturn, h.functionIndex, h.tokens.declaredName_eq, h.reading, h.comment_eq,
    h.report_eq, h.lineOf_eq]

theorem checkParamsFully_alike (h : u.Alike rule.reader u') :
    rule.checkParamsFully u' = rule.checkParamsFully u := by
  simp only [checkParamsFully, h.inherits_eq, checkParams_alike h, h.reading, h.report_eq,
    h.lineOf_eq]

theorem checkReturnFully_alike (h : u.Alike rule.reader u') :
    rule.checkReturnFully u' = rule.checkReturnFully u := by
  simp only [checkReturnFully, h.inherits_eq, checkReturn_alike h, h.functionIndex,
    h.tokens.returnsValue_eq]
  rcases h.tokens.get_cases u.functionIndex with
    ⟨fault, hget, hget'⟩ | ⟨t, t', hget, hget', hextent⟩
  · rw [hget, hget']
  · simp only [hget, hget', hextent, bind, Except.bind]

end FunctionRule

/-- Two attempts to find a comment that lead to the same. -/
inductive Opening.Alike (reader : CommentReader) :
    Except Fault Opening → Except Fault Opening → Prop where
  | error (fault : Fault) : Alike reader (.error fault) (.error fault)
  | closed (violations : List Violation) :
    Alike reader (.ok (.closed violations)) (.ok (.closed violations))
  | opened (u u' : Subject) (h : u.Alike reader u') :
    Alike reader (.ok (.opened u)) (.ok (.opened u'))

/-- A search that ends with a report. -/
theorem Opening.Alike.of_report (reader : CommentReader) (report : Except Fault Violation) :
    Opening.Alike reader (do return .closed [← report]) (do return .closed [← report]) := by
  cases report with
  | error fault => exact .error fault
  | ok v => exact .closed [v]

theorem Opening.ofFunction_alike {reader : CommentReader} {s s' : TokenSequence}
    (h : s.ReadAlike reader s') (i : Int) :
    Opening.Alike reader (Opening.ofFunction reader s i) (Opening.ofFunction reader s' i) := by
  unfold Opening.ofFunction
  rcases h.get_cases i with ⟨fault, hget, hget'⟩ | ⟨t, t', hget, hget', hextent⟩
  · simp only [hget, hget', bind, Except.bind]
    exact .error fault
  · simp only [hget, hget', hextent, h.firstBodyToken_eq, h.report_eq, h.hasKind_eq, bind,
      Except.bind]
    split
    · exact .closed []
    · cases s.firstBodyToken i with
      | error fault => exact .error fault
      | ok first =>
        cases first with
        | none => exact .of_report reader _
        | some first =>
          simp only
          split
          · next hdoc =>
            obtain ⟨d, hd, hkind⟩ := (Option.any_eq_true ..).1 hdoc
            rw [TokenSequence.get?_natCast] at hd
            obtain ⟨d', hd', hline, hread⟩ := h.exists_docComment hd (beq_iff_eq.1 hkind)
            rw [Subject.read_eq ((TokenSequence.get?_natCast ..).trans hd),
              Subject.read_eq ((TokenSequence.get?_natCast ..).trans hd'), hread]
            cases reader d.text with
            | error fault =>
              cases fault with
              | unreadable reason => exact .of_report reader _
              | _ => exact .error _
            | ok reading =>
              simp only [Except.map]
              split
              · exact .opened _ _ ⟨h, rfl, rfl, hline, rfl⟩
              · exact .of_report reader _
          · split
            · exact .of_report reader _
            · exact .of_report reader _

namespace FunctionRule

variable {rule : FunctionRule} {s s' : TokenSequence}

theorem runSteps_alike (h : s.ReadAlike rule.reader s') (i : Int)
    (steps : List (Subject → Except Fault (List Violation)))
    (hsteps : ∀ step ∈ steps, ∀ u u', u.Alike rule.reader u' → step u' = step u) :
    rule.runSteps s' i steps = rule.runSteps s i steps := by
  unfold runSteps
  have hopening := Opening.ofFunction_alike h i
  generalize Opening.ofFunction rule.reader s i = opening at hopening ⊢
  generalize Opening.ofFunction rule.reader s' i = opening' at hopening ⊢
  cases hopening with
  | error fault => rfl
  | closed violations => rfl
  | opened u u' hu =>
    have hmap : (steps.mapM fun step => step u') = steps.mapM fun step => step u :=
      mapM_congr fun step hstep => hsteps step hstep u u' hu
    simp only [bind, Except.bind, hmap]

/-- Two sequences from which the same is read get the same verdict. -/
theorem check_readAlike (h : s.ReadAlike rule.reader s') (i : Int) :
    rule.check s' i = rule.check s i := by
  unfold check
  simp only [h.findPrevious_eq]
  split
  · rfl
  · apply runSteps_alike h
    intro step hstep u u' hu
    simp only [List.mem_cons, List.not_mem_nil, or_false] at hstep
    rcases hstep with rfl | rfl | rfl | rfl
    · exact checkParamsFully_alike hu
    · exact checkReturnFully_alike hu
    · exact hu.checkDescription_eq
    · exact hu.checkCapital_eq

end FunctionRule

/-! ## A comment that is indented further -/

/-- Another text for a doc comment, from which the same is read. -/
theorem TokenSequence.readAlike_set {reader : CommentReader} {s : TokenSequence} {k : Nat}
    {d : Token} {text : String} (hd : s.tokens[k]? = some d) (hkind : d.kind = .docComment)
    (hread : reader text = reader d.text) :
    s.ReadAlike reader ⟨s.tokens.set k { d with text := text }⟩ where
  erased := by
    have herased : ({ d with text := text } : Token).erased = d.erased := by
      simp [Token.erased, hkind]
    unfold TokenSequence.erased
    congr 1
    apply List.ext_getElem?
    intro j
    rw [List.getElem?_map, List.getElem?_map, List.getElem?_set]
    by_cases hj : k = j
    · subst hj
      rw [if_pos rfl, if_pos (List.getElem?_eq_some_iff.1 hd).1, hd, Option.map_some,
        Option.map_some, herased]
    · rw [if_neg hj]
  reading := by
    intro j e e' he he' hdoc
    rw [List.getElem?_set] at he'
    by_cases hj : k = j
    · subst hj
      rw [if_pos rfl, if_pos (List.getElem?_eq_some_iff.1 hd).1, Option.some.injEq] at he'
      rw [hd, Option.some.injEq] at he
      rw [← he', ← he]
      exact hread
    · rw [if_neg hj, he, Option.some.injEq] at he'
      rw [he']

/-- If the lines of a comment but the first are indented further, and alike, the same
is read from it, and the verdicts on the functions of its file stay the same. -/
theorem reindented_agree {lexicon : Literal.Lexicon} (docstring docstring' : String)
    (value blanks : List Char)
    (hblanks : ∀ c ∈ blanks, Text.isBlank c = true) (hlines : '\n' ∉ blanks)
    (hvalue : Literal.readText lexicon docstring = .ok value)
    (hvalue' : Literal.readText lexicon docstring' = .ok (Text.indentRest blanks value)) :
    (∃ r, docstringReader lexicon docstring = .ok r ∧ docstringReader lexicon docstring' = .ok r) ∧
    ∀ (s : TokenSequence) (k : Nat) (d : Token) (ignored exempt : List String) (i : Int),
      s.tokens[k]? = some d → d.kind = .docComment → d.text = docstring →
      (FunctionRule.mk (docstringReader lexicon) ignored exempt).check
          ⟨s.tokens.set k { d with text := docstring' }⟩ i =
        (FunctionRule.mk (docstringReader lexicon) ignored exempt).check s i := by
  have hread := docstringReader_indentRest hblanks hlines hvalue hvalue'
  refine ⟨⟨_, docstringReader_eq hvalue, hread.trans (docstringReader_eq hvalue)⟩, ?_⟩
  intro s k d ignored exempt i hd hkind htext
  apply FunctionRule.check_readAlike
  apply TokenSequence.readAlike_set hd hkind
  rw [htext]
  exact hread

/-- A comment whose lines are indented in part. -/
def indentedLines : List (List Char) :=
  ["Adds.".toList, [], "  @param n: One".toList, "    and more.".toList, "  ".toList]

/-- The same comment with a tab and a space before each line but the first. -/
def reindentedLines : List (List Char) :=
  ["Adds.".toList, "\t ".toList, "\t   @param n: One".toList, "\t     and more.".toList,
    "\t   ".toList]

/-- `def f():` with the first of these comments. -/
def indentedSequence : TokenSequence :=
  ⟨[⟨.openTag, "", 1, 0, {}⟩,
    ⟨.function, "def", 1, 0, { scopeOpener := some 2, scopeCloser := some 4 }⟩,
    ⟨.operator, ":", 1, 7, {}⟩, ⟨.docComment, tripleQuoted indentedLines, 2, 2, {}⟩,
    ⟨.terminator, "\n", 6, 5, {}⟩]⟩

theorem indentRest_indentedLines :
    Text.indentRest ['\t', ' '] (Text.joinWith ['\n'] indentedLines) =
      Text.joinWith ['\n'] reindentedLines := by
  decide

/-- The tag and the verdict are the same for both. -/
theorem indentedLines_agree :
    (∃ r, docstringReader .small (tripleQuoted indentedLines) = .ok r ∧
      docstringReader .small (tripleQuoted reindentedLines) = .ok r ∧
      r.params = [{ name := "n", comment := "One and more.", line := 2 }]) ∧
    (FunctionRule.mk (docstringReader .small) [] []).check
        ⟨indentedSequence.tokens.set 3 ⟨.docComment, tripleQuoted reindentedLines, 2, 2, {}⟩⟩ 1 =
      (FunctionRule.mk (docstringReader .small) [] []).check indentedSequence 1 := by
  have hall : (indentedLines ++ reindentedLines).all (fun l => l.all isPlain) = true := by decide
  have hplain : ∀ l ∈ indentedLines, ∀ c ∈ l, isPlain c = true := fun l hl =>
    List.all_eq_true.1 (List.all_eq_true.1 hall l (List.mem_append_left _ hl))
  have hplain' : ∀ l ∈ reindentedLines, ∀ c ∈ l, isPlain c = true := fun l hl =>
    List.all_eq_true.1 (List.all_eq_true.1 hall l (List.mem_append_right _ hl))
  have hvalue : Literal.readText .small (tripleQuoted indentedLines) = .ok _ :=
    readText_triple hplain
  have hvalue' : Literal.readText .small (tripleQuoted reindentedLines) = .ok _ :=
    readText_triple hplain'
  rw [← indentRest_indentedLines] at hvalue'
  have hblanks : ∀ c ∈ ['\t', ' '], Text.isBlank c = true := List.all_eq_true.1 (by decide)
  obtain ⟨⟨r, hr, hr'⟩, hcheck⟩ := reindented_agree _ _ _ ['\t', ' '] hblanks (by decide)
    hvalue hvalue'
  refine ⟨⟨r, hr, hr', ?_⟩, ?_⟩
  · rw [docstringReader_eq hvalue, Except.ok.injEq] at hr
    rw [← hr]
    decide
  · have htoken : indentedSequence.tokens[3]? =
        some ⟨.docComment, tripleQuoted indentedLines, 2, 2, {}⟩ := by
      simp only [indentedSequence, List.getElem?_cons_succ, List.getElem?_cons_zero]
    have hagree := hcheck indentedSequence 3 _ [] [] 1 htoken rfl rfl
    exact hagree

end DocLint
