import DocLint.Proofs.Steps
import DocLint.Proofs.Token.Copy

/-!
# The verdict on the same function in another sequence

Every step of the rule for function comments gives the same violations for the
same function in two sequences, with the token indices of the one moved to the
other. A step that fails, fails with the same fault.

Results:
* `Check.report_copy`: one violation.
* `Opening.ofFunction_copy`: finding and reading the comment.
* `Subject.Copy.checkDescription_eq`, `checkParams_copy`, `checkReturn_copy`:
  the checks of the content.
* `FunctionRule.check_copy`: all checks together.
-/
namespace DocLint

open TokenSequence

/-! ## Moved violations -/

/-- A violation `m` positions on. -/
def Violation.shift (m : Nat) (v : Violation) : Violation :=
  { v with tokenIndex := m + v.tokenIndex }

/-- The outcome of a check, with its violations `m` positions on. -/
def shiftVerdict (m : Nat) (verdict : Except Fault (List Violation)) :
    Except Fault (List Violation) := verdict.map (List.map (Violation.shift m))

@[simp] theorem shiftVerdict_ok (m : Nat) (vs : List Violation) :
    shiftVerdict m (.ok vs) = .ok (vs.map (Violation.shift m)) := rfl

theorem append_copy {m : Nat} (found : List Violation) (more : Except Fault (List Violation)) :
    (do return found.map (Violation.shift m) ++ (← shiftVerdict m more)) =
      shiftVerdict m (do return found ++ (← more)) := by
  cases more with
  | error fault => rfl
  | ok more =>
    show Except.ok _ = Except.ok _
    rw [List.map_append]

variable {s s' : TokenSequence} {m n : Nat} {p : Parts}

theorem Check.report_copy (check : Check) {j : Nat} {t t' : Token} (ht : s.tokens[j]? = some t)
    (ht' : s'.tokens[m + j]? = some t') (hline : t.line = t'.line) (args : List String)
    (line : Option Int) : check.report s' ((m + j : Nat) : Int) args line =
      (check.report s j args line).map (Violation.shift m) := by
  simp only [Check.report, Violation.atToken, get_natCast ht,
    get_natCast ht', bind, Except.bind, pure, Except.pure]
  cases Violation.messageOf check.template args with
  | error fault => rfl
  | ok message => simp [Except.map, Violation.shift, hline]

/-! ## The same subject -/

/-- Two subjects that are the same function, `m` positions apart, with the same
reading of its comment. -/
structure Subject.Copy (m n : Nat) (p : Parts) (u u' : Subject) : Prop where
  same : SameFunction u.tokens u'.tokens m n p
  functionIndex : u.functionIndex = n
  functionIndex' : u'.functionIndex = ((m + n : Nat) : Int)
  commentIndex : ∃ d : Nat, u.commentIndex = d ∧ u'.commentIndex = ((m + d : Nat) : Int)
  line : u.token.line = u'.token.line
  reading : u.reading = u'.reading

namespace Subject.Copy

variable {u u' : Subject}

theorem report_eq (h : Subject.Copy m n p u u') (check : Check) (args : List String)
    (line : Option Int) :
    u'.report check args line = (u.report check args line).map (Violation.shift m) := by
  obtain ⟨d, hd, hd'⟩ := h.commentIndex
  have ht := u.token_eq
  have ht' := u'.token_eq
  rw [hd, get?_natCast] at ht
  rw [hd', get?_natCast] at ht'
  unfold Subject.report
  rw [hd, hd']
  exact check.report_copy ht ht' h.line args line

theorem lineOf_eq (h : Subject.Copy m n p u u') (line : Int) : u'.lineOf line = u.lineOf line := by
  simp only [Subject.lineOf, h.line]

theorem comment_eq (h : Subject.Copy m n p u u') (member : String) :
    u'.comment member = u.comment member := by
  simp only [Subject.comment, h.reading]

theorem inherits_eq (h : Subject.Copy m n p u u') : u'.inherits = u.inherits := by
  simp only [Subject.inherits, h.comment_eq]

/-- One violation that is reported, as the verdict of a step. -/
theorem single_eq (h : Subject.Copy m n p u u') (check : Check) (args : List String)
    (line : Option Int) : (do return [← u'.report check args line]) =
      shiftVerdict m (do return [← u.report check args line]) := by
  rw [h.report_eq]
  cases u.report check args line <;> rfl

theorem checkDescription_eq (h : Subject.Copy m n p u u') :
    u'.checkDescription = shiftVerdict m u.checkDescription := by
  unfold Subject.checkDescription
  rw [h.comment_eq]
  cases u.comment "short_description" with
  | error fault => rfl
  | ok comment =>
    simp only [bind, Except.bind, pure, Except.pure]
    split
    · exact h.single_eq .shortMissing [] none
    · refine mapM_map_eq _ fun check _ => ?_
      rw [h.report_eq, h.lineOf_eq]

theorem checkTag_eq (h : Subject.Copy m n p u u') (position : Nat) (real : Option String)
    (tag : ParamTag) :
    u'.checkTag position real tag = shiftVerdict m (u.checkTag position real tag) := by
  unfold Subject.checkTag
  refine mapM_map_eq _ fun found _ => ?_
  rw [h.report_eq, h.lineOf_eq]

theorem checkCapital_eq (h : Subject.Copy m n p u u') :
    u'.checkCapital = shiftVerdict m u.checkCapital := by
  unfold Subject.checkCapital
  rw [h.comment_eq]
  cases u.comment "content" with
  | error fault => rfl
  | ok comment =>
    simp only [bind, Except.bind, pure, Except.pure]
    split
    · rfl
    · rw [h.lineOf_eq]
      exact h.single_eq .commentNotCapitalized [] _

end Subject.Copy

/-! ## Checks that look at the function -/

namespace FunctionRule

variable (rule : FunctionRule) {u u' : Subject}

theorem realParams_copy (h : Subject.Copy m n p u u') :
    rule.realParams u' = rule.realParams u := by
  unfold realParams
  rw [h.functionIndex, h.functionIndex', h.same.parameterNames_eq]

theorem checkParams_copy (h : Subject.Copy m n p u u') :
    rule.checkParams u' = shiftVerdict m (rule.checkParams u) := by
  unfold checkParams
  rw [rule.realParams_copy h]
  cases rule.realParams u with
  | error fault => rfl
  | ok real =>
    have htags := mapM_map_eq u.reading.params.zipIdx fun (tag : ParamTag × Nat) _ =>
      h.checkTag_eq (tag.2 + 1) real[tag.2]? tag.1
    have hmissing : ∀ line, (real.filter fun name =>
        !(real.take u.reading.params.length).contains name).mapM (fun name =>
          u'.report .paramTagMissing [name] (some (u.lineOf line))) =
        shiftVerdict m ((real.filter fun name =>
          !(real.take u.reading.params.length).contains name).mapM fun name =>
            u.report .paramTagMissing [name] (some (u.lineOf line))) := fun line =>
      mapM_map_eq _ fun name _ => h.report_eq _ _ _
    simp only [bind, Except.bind, pure, Except.pure, ← h.reading, h.lineOf_eq, h.comment_eq, htags]
    cases u.reading.params.zipIdx.mapM fun tag : ParamTag × Nat =>
        u.checkTag (tag.2 + 1) real[tag.2]? tag.1 with
    | error fault => rfl
    | ok tagged =>
      simp only [Except.map, ← List.map_flatten]
      cases u.reading.params.getLast? with
      | some tag =>
        simp only [hmissing]
        exact append_copy _ _
      | none =>
        cases u.comment "line" with
        | error fault => rfl
        | ok comment =>
          simp only [hmissing]
          exact append_copy _ _

theorem checkReturn_copy (h : Subject.Copy m n p u u') :
    rule.checkReturn u' = shiftVerdict m (rule.checkReturn u) := by
  unfold checkReturn
  rw [h.functionIndex, h.functionIndex', h.same.declaredName_eq]
  cases u.tokens.declaredName n with
  | error fault => rfl
  | ok name =>
    simp only [bind, Except.bind, pure, Except.pure, ← h.reading, h.lineOf_eq, h.comment_eq]
    split
    · rfl
    · split
      · cases u.comment "end_line" with
        | error fault => rfl
        | ok comment => exact h.single_eq .returnMissing [] _
      · split
        · exact h.single_eq .returnValueMissing [] _
        · rfl

theorem checkParamsFully_copy (h : Subject.Copy m n p u u') :
    rule.checkParamsFully u' = shiftVerdict m (rule.checkParamsFully u) := by
  unfold checkParamsFully
  rw [h.inherits_eq]
  cases u.inherits with
  | error fault => rfl
  | ok inherits =>
    cases inherits with
    | true => rfl
    | false =>
      have hmore := mapM_map_eq (u.reading.params.filter fun tag =>
        !startsUpper (Text.trim tag.comment.toList)) fun (tag : ParamTag) _ =>
          h.report_eq .paramCommentNotCapitalized [Subject.shownName tag]
            (some (u.lineOf tag.line))
      simp only [bind, Except.bind, pure, Except.pure, Bool.false_eq_true, if_false,
        rule.checkParams_copy h, ← h.reading, h.lineOf_eq, hmore]
      cases rule.checkParams u with
      | error fault => rfl
      | ok baseline =>
        exact append_copy _ _

theorem checkReturnFully_copy (h : Subject.Copy m n p u u') :
    rule.checkReturnFully u' = shiftVerdict m (rule.checkReturnFully u) := by
  obtain ⟨t, ht, he⟩ := h.same.extent
  obtain ⟨t', ht', he'⟩ := h.same.extent'
  unfold checkReturnFully
  rw [h.inherits_eq]
  cases u.inherits with
  | error fault => rfl
  | ok inherits =>
    cases inherits with
    | true => rfl
    | false =>
      simp only [bind, Except.bind, pure, Except.pure, Bool.false_eq_true, if_false,
        h.functionIndex, h.functionIndex', get_natCast ht,
        get_natCast ht', he, he', Parts.toExtent, Parts.shift,
        h.same.returnsValue_eq]
      split
      · exact rule.checkReturn_copy h
      · rfl

end FunctionRule

/-! ## Finding the comment -/

theorem Subject.read_eq {reader : CommentReader} {index comment : Int} {t : Token}
    (ht : s.get? comment = some t) : Subject.read reader s index comment =
      (reader t.text).map fun reading => ⟨s, index, comment, t, reading, ht⟩ := by
  unfold Subject.read
  split
  · next hnone =>
    rw [ht] at hnone
    cases hnone
  · next token hsome =>
    obtain rfl : t = token := by rwa [ht, Option.some.injEq] at hsome
    cases reader t.text <;> rfl

/-- Two attempts to find a comment that lead to the same, `m` positions apart. -/
inductive Opening.Copy (m n : Nat) (p : Parts) :
    Except Fault Opening → Except Fault Opening → Prop where
  | error (fault : Fault) : Copy m n p (.error fault) (.error fault)
  | closed (violations : List Violation) :
    Copy m n p (.ok (.closed violations)) (.ok (.closed (violations.map (Violation.shift m))))
  | opened (u u' : Subject) (h : Subject.Copy m n p u u') :
    Copy m n p (.ok (.opened u)) (.ok (.opened u'))

theorem Opening.Copy.of_report {report report' : Except Fault Violation}
    (h : report' = report.map (Violation.shift m)) :
    Opening.Copy m n p (do return .closed [← report]) (do return .closed [← report']) := by
  rw [h]
  cases report with
  | error fault => exact .error fault
  | ok v => exact .closed [v]

theorem Opening.ofFunction_copy (reader : CommentReader) (h : SameFunction s s' m n p) :
    Opening.Copy m n p (Opening.ofFunction reader s n)
      (Opening.ofFunction reader s' ((m + n : Nat) : Int)) := by
  obtain ⟨t, ht, he⟩ := h.extent
  obtain ⟨t', ht', he'⟩ := h.extent'
  obtain ⟨first, hfirst, hfirst', hsome⟩ := h.firstBodyToken_copy
  have hn := h.order
  have hreport : ∀ (check : Check) (args : List String) (j : Nat), n ≤ j → j ≤ p.closer →
      Opening.Copy m n p (do return .closed [← check.report s j args])
        (do return .closed [← check.report s' ((m + j : Nat) : Int) args]) := by
    intro check args j h1 h2
    obtain ⟨u, u', hu, hu', halike⟩ := h.stretch j h1 h2
    exact .of_report (check.report_copy hu hu' halike.line args none)
  unfold Opening.ofFunction
  simp only [get_natCast ht,
    get_natCast ht', hfirst, hfirst', bind, Except.bind, pure,
    Except.pure] at hreport ⊢
  simp only [he, he', Parts.toExtent, Option.isNone_some, Bool.false_eq_true, if_false]
  cases first with
  | none => exact hreport .commentMissing [] n (Nat.le_refl n) (by omega)
  | some d =>
    obtain ⟨h1, h2, hdoc⟩ := hsome d rfl
    obtain ⟨u, u', hu, hu', halike⟩ := h.stretch d h1 h2
    have hcomment := halike.kind_beq (k := .comment) (by decide) (by decide)
    unfold isDocComment at hdoc
    rw [hu, hu', Option.any_some, Option.any_some] at hdoc
    simp only [Option.map_some, get?_natCast, hu, hu', Option.any_some, hdoc, ← hcomment]
    split
    · rw [Subject.read_eq ((get?_natCast ..).trans hu), Subject.read_eq ((get?_natCast ..).trans hu'),
        ← halike.text]
      cases reader u.text with
      | error fault =>
        cases fault with
        | unreadable reason => exact hreport .commentUnreadable [reason.message] d h1 h2
        | _ => exact .error _
      | ok reading =>
        simp only [Except.map]
        split
        · exact .opened _ _ ⟨h, rfl, rfl, ⟨d, rfl, rfl⟩, halike.line, rfl⟩
        · exact hreport .commentEmpty [] d h1 h2
    · split
      · exact hreport .commentWrongStyle [] d h1 h2
      · exact hreport .commentMissing [] n (Nat.le_refl n) (by omega)

namespace FunctionRule

variable (rule : FunctionRule)

theorem runSteps_copy (h : SameFunction s s' m n p)
    (steps : List (Subject → Except Fault (List Violation)))
    (hsteps : ∀ step ∈ steps, ∀ u u', Subject.Copy m n p u u' →
      step u' = shiftVerdict m (step u)) :
    rule.runSteps s' ((m + n : Nat) : Int) steps = shiftVerdict m (rule.runSteps s n steps) := by
  unfold runSteps
  have hopening := Opening.ofFunction_copy rule.reader h
  generalize Opening.ofFunction rule.reader s n = opening at hopening ⊢
  generalize Opening.ofFunction rule.reader s' ((m + n : Nat) : Int) = opening' at hopening ⊢
  cases hopening with
  | error fault => rfl
  | closed violations => rfl
  | opened u u' hu =>
    have hall := mapM_map_eq steps fun step hstep => hsteps step hstep u u' hu
    simp only [bind, Except.bind, pure, Except.pure, hall]
    cases steps.mapM fun step => step u with
    | error fault => rfl
    | ok found => simp only [Except.map, shiftVerdict_ok, List.map_flatten]

/-- An open tag at the start stands before every function. -/
theorem isNone_findPrevious (hs : s.tokens[0]?.any (·.kind == .openTag) = true) (hn : 0 < n) :
    (s.findPrevious (.oneOf [.comment, .docComment, .classKeyword, .function, .openTag])
      ((n : Int) - 1)).isNone = false := by
  cases hfound : s.findPrevious
      (.oneOf [.comment, .docComment, .classKeyword, .function, .openTag]) ((n : Int) - 1) with
  | some i => rfl
  | none =>
    obtain ⟨first, hfirst, hkind⟩ := (Option.any_eq_true ..).1 hs
    have hno := findPrevious_eq_none_iff.1 hfound 0 (Int.le_refl 0) (by omega)
    rw [hfirst, Option.any_some, beq_iff_eq.1 hkind] at hno
    cases hno

theorem check_copy (h : SameFunction s s' m n p) :
    rule.check s' ((m + n : Nat) : Int) = shiftVerdict m (rule.check s n) := by
  obtain ⟨hs, hs', hn⟩ := h.openTag
  unfold check
  simp only [isNone_findPrevious (n := n) (by rw [hs]; rfl) hn,
    isNone_findPrevious (n := m + n) (by rw [hs']; rfl) (by omega),
    Bool.false_eq_true, if_false]
  refine rule.runSteps_copy h _ fun step hstep u u' hu => ?_
  simp only [List.mem_cons, List.not_mem_nil, or_false] at hstep
  rcases hstep with rfl | rfl | rfl | rfl
  · exact rule.checkParamsFully_copy hu
  · exact rule.checkReturnFully_copy hu
  · exact hu.checkDescription_eq
  · exact hu.checkCapital_eq

end FunctionRule

end DocLint
