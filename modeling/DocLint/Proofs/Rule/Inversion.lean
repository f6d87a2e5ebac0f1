import DocLint.Proofs.Rule.Extension
import DocLint.Proofs.Steps
import DocLint.Rule.EndOfFile

/-!
# What a verdict is made of

A verdict on a function says what was found, whatever the token sequence looks
like. Either looking for the comment ends with at most one violation, or there is
a comment, and each violation says one of the findings about it.

Results:
* `Check.exists_of_report`: what a violation says.
* `Opening.found`: what looking for a comment leads to, and where.
* `FunctionRule.exists_findings`: the findings behind a verdict.
* `FunctionRule.exists_check_of_mem`, `EndOfFile.exists_check_of_mem`: each
  violation is one of a check.
-/
namespace DocLint

open TokenSequence

variable {s : TokenSequence} {i : Int} {v : Violation} {reader : CommentReader}

/-! ## Reports -/

theorem Check.exists_of_report {check : Check} {args : List String} {line : Option Int}
    (h : check.report s i args line = .ok v) :
    ∃ t message, s.get i = .ok t ∧ Violation.messageOf check.template args = .ok message ∧
      v = ⟨check.code, message, i, line.getD t.line, args⟩ := by
  unfold Check.report Violation.atToken at h
  obtain ⟨t, ht, h⟩ := exists_of_bind h
  obtain ⟨message, hmessage, h⟩ := exists_of_bind h
  exact ⟨t, message, ht, hmessage, (Except.ok.inj h).symm⟩

/-- Whether a violation is one of a check: it has the check's code and as many
arguments as the check's message takes, and the message is filled with them. -/
structure Violation.IsOf (v : Violation) (check : Check) : Prop where
  code : v.code = check.code
  fits : v.args.length = check.slots
  message : messageOf check.template v.args = .ok v.message

theorem Check.isOf_of_report {check : Check} {args : List String} {line : Option Int}
    (h : check.report s i args line = .ok v) (hfits : args.length = check.slots) :
    v.IsOf check := by
  obtain ⟨t, message, -, hmessage, rfl⟩ := exists_of_report h
  exact ⟨rfl, hfits, hmessage⟩

theorem Subject.isOf_violation (u : Subject) (f : Finding) : (u.violation f).IsOf f.check :=
  ⟨rfl, f.fits, f.messageOf_eq⟩

/-! ## Looking for a comment -/

/-- What looking for the comment of the function at `i` leads to. -/
inductive Opening.Found (reader : CommentReader) (s : TokenSequence) (i : Int) : Opening → Prop
  /-- The function has no scope. -/
  | bodiless : Found reader s i (.closed [])
  | missing (v : Violation) (h : Check.report .commentMissing s i = .ok v) :
    Found reader s i (.closed [v])
  | wrongStyle (v : Violation) (j : Nat) (hbody : s.firstBodyToken i = .ok (some j))
    (hkind : s.tokens[j]?.any (·.kind == .comment) = true)
    (h : Check.report .commentWrongStyle s j = .ok v) : Found reader s i (.closed [v])
  | unreadable (v : Violation) (j : Nat) (hdoc : s.docCommentOf i = .ok (some j))
    (reason : Unreadable) (h : Check.report .commentUnreadable s j [reason.message] = .ok v) :
    Found reader s i (.closed [v])
  | empty (v : Violation) (j : Nat) (hdoc : s.docCommentOf i = .ok (some j))
    (h : Check.report .commentEmpty s j = .ok v) : Found reader s i (.closed [v])
  | opened (u : Subject) (n j : Nat) (t : Token) (hindex : i = n) (ht : s.tokens[n]? = some t)
    (hdoc : s.docCommentOf i = .ok (some j)) (hcomment : u.commentIndex = j)
    (hread : u.IsRead reader s n) : Found reader s i (.opened u)

theorem docCommentOf_of_firstBodyToken {j : Nat} (hbody : s.firstBodyToken i = .ok (some j))
    (hmark : (s.get? j).any (·.kind == .docComment) = true) : s.docCommentOf i = .ok (some j) := by
  simp only [docCommentOf, hbody, hmark, bind, Except.bind, pure, Except.pure, if_true]

namespace Opening

variable {opening : Opening}

/-- Where there is a doc comment it is read, and what comes of it decides. -/
theorem found_of_docComment {n j : Nat} {t d : Token} (ht : s.tokens[n]? = some t)
    (hdoc : s.docCommentOf n = .ok (some j)) (hd : s.tokens[j]? = some d)
    (h : Opening.ofFunction reader s n = .ok opening) : Found reader s n opening := by
  rw [ofFunction_of_docComment reader hdoc hd] at h
  cases hread : reader d.text with
  | ok reading =>
    simp only [hread] at h
    split at h
    · next hcomment =>
      obtain rfl := Except.ok.inj h
      exact .opened _ n j t rfl ht hdoc rfl ⟨rfl, rfl, hread, Option.isSome_iff_exists.1 hcomment⟩
    · obtain ⟨v, hv, h⟩ := exists_of_bind h
      obtain rfl := Except.ok.inj h
      exact .empty v j hdoc hv
  | error fault =>
    rw [hread] at h
    cases fault with
    | unreadable reason =>
      obtain ⟨v, hv, h⟩ := exists_of_bind h
      obtain rfl := Except.ok.inj h
      exact .unreadable v j hdoc reason hv
    | _ => cases h

theorem found (h : Opening.ofFunction reader s i = .ok opening) : Found reader s i opening := by
  have hopening := h
  unfold Opening.ofFunction at h
  obtain ⟨t, ht, h⟩ := exists_of_bind h
  split at h
  · obtain rfl := Except.ok.inj h
    exact .bodiless
  · obtain ⟨first, hbody, h⟩ := exists_of_bind h
    cases first with
    | none =>
      obtain ⟨v, hv, h⟩ := exists_of_bind h
      obtain rfl := Except.ok.inj h
      exact .missing v hv
    | some j =>
      simp only at h
      split at h
      · next hmark =>
        obtain ⟨d, hd, -⟩ := (Option.any_eq_true ..).1 hmark
        rw [get_eq_ok_iff, get?_eq_some_iff] at ht
        obtain ⟨n, rfl⟩ := Int.eq_ofNat_of_zero_le ht.1
        exact found_of_docComment ht.2 (docCommentOf_of_firstBodyToken hbody hmark)
          ((get?_natCast s j).symm.trans hd) hopening
      · split at h
        · next hkind =>
          obtain ⟨v, hv, h⟩ := exists_of_bind h
          obtain rfl := Except.ok.inj h
          rw [get?_natCast] at hkind
          exact .wrongStyle v j hbody hkind hv
        · obtain ⟨v, hv, h⟩ := exists_of_bind h
          obtain rfl := Except.ok.inj h
          exact .missing v hv

end Opening

/-! ## Verdicts on what was read -/

namespace FunctionRule

variable {rule : FunctionRule} {n : Nat} {t : Token} {u : Subject} {vs : List Violation}

/-- A verdict on a comment that was read is made of the verdicts of the steps. -/
theorem exists_steps_of_opened {steps : List (Subject → Except Fault (List Violation))}
    (hop : Opening.ofFunction rule.reader s i = .ok (.opened u))
    (h : rule.runSteps s i steps = .ok vs) :
    ∃ parts, steps.mapM (fun step => step u) = .ok parts ∧ vs = parts.flatten := by
  unfold runSteps at h
  rw [hop] at h
  obtain ⟨parts, hparts, h⟩ : ∃ parts, steps.mapM (fun step => step u) = .ok parts ∧
    pure parts.flatten = (.ok vs : Except Fault (List Violation)) := exists_of_bind h
  exact ⟨parts, hparts, (Except.ok.inj h).symm⟩

/-- Unless the comment inherits its text, its parameters have been looked at. -/
theorem exists_realParams {c : DocComment} {ps : List Violation}
    (hc : u.reading.comment = some c) (hinherits : c.inherits = false)
    (h : rule.checkParamsFully u = .ok ps) : ∃ real, rule.realParams u = .ok real := by
  unfold checkParamsFully at h
  obtain ⟨inherits, hinherits', h⟩ := exists_of_bind h
  rw [Subject.inherits, Subject.comment_eq_ok hc] at hinherits'
  obtain rfl : c.inherits = inherits := Except.ok.inj hinherits'
  rw [hinherits] at h
  obtain ⟨baseline, hbaseline, -⟩ := exists_of_bind h
  unfold checkParams at hbaseline
  obtain ⟨real, hreal, -⟩ := exists_of_bind hbaseline
  exact ⟨real, hreal⟩

/-- A comment that inherits its text is checked for its description only. -/
theorem check_inherits {c : DocComment} (ha : IsAnchored s i)
    (hop : Opening.ofFunction rule.reader s i = .ok (.opened u))
    (hc : u.reading.comment = some c) (hinherits : c.inherits = true) :
    rule.check s i = .ok ((c.descriptionFindings ++ c.capitalFindings).map u.violation) := by
  have hsubject : u.inherits = .ok true := by
    rw [Subject.inherits, Subject.comment_eq_ok hc, ← hinherits]
    rfl
  have hparams : rule.checkParamsFully u = .ok [] := by
    simp only [checkParamsFully, hsubject, bind, Except.bind, pure, Except.pure, if_true]
  have hreturn : rule.checkReturnFully u = .ok [] := by
    simp only [checkReturnFully, hsubject, bind, Except.bind, pure, Except.pure, if_true]
  rw [check_eq_runSteps ha]
  simp only [runSteps, hop, List.mapM_cons, List.mapM_nil, hparams, hreturn,
    Subject.checkDescription_findings hc, Subject.checkCapital_findings hc, bind, Except.bind, pure,
    Except.pure, List.map_append]
  simp

/-- The findings behind a verdict on a comment that was read. -/
theorem exists_findings (ha : IsAnchored s n) (ht : s.tokens[n]? = some t)
    (hop : Opening.ofFunction rule.reader s n = .ok (.opened u)) (hread : u.IsRead rule.reader s n)
    (h : rule.check s n = .ok vs) :
    ∃ e : Evidence, u.reading = e.reading ∧ u.reading.comment = some e.comment ∧
      vs = e.findings.map u.violation := by
  obtain ⟨c, hc⟩ := hread.comment
  cases hinherits : c.inherits with
  | true =>
    rw [check_inherits ha hop hc hinherits, Except.ok.injEq] at h
    exact ⟨⟨u.reading, c, [], false, false⟩, rfl, hc,
      by simp only [← h, Evidence.findings, hinherits, if_true, List.nil_append]⟩
  | false =>
    obtain ⟨name, hname⟩ := exists_declaredName ht
    have hsteps := h
    rw [check_eq_runSteps ha] at hsteps
    obtain ⟨parts, hparts, -⟩ := exists_steps_of_opened hop hsteps
    rw [List.mapM_cons] at hparts
    obtain ⟨ps, hps, -⟩ := exists_of_bind hparts
    obtain ⟨real, hreal⟩ := exists_realParams hc hinherits hps
    have he : u.Gives rule
        ⟨u.reading, c, real, rule.exemptFunctions.contains name, s.functionReturns t⟩ :=
      { reading := rfl
        comment := hc
        real := hreal
        exempt := ⟨name, by rw [hread.tokens, hread.functionIndex, hname], rfl⟩
        returnsValue := ⟨t, by rw [hread.tokens, hread.functionIndex, get_natCast ht],
          by rw [hread.tokens]⟩ }
    rw [check_opened ha hop he, Except.ok.injEq] at h
    exact ⟨_, rfl, hc, h.symm⟩

end FunctionRule

/-! ## Each violation is one of a check -/

/-- The checks of what a comment says. -/
def contentChecks : List Check := paramChecks ++ returnChecks ++ descriptionChecks ++ capitalChecks

namespace Evidence

variable {e : Evidence} {f : Finding}

/-- The parts of what all checks find. -/
theorem mem_findings (h : f ∈ e.findings) : f ∈ e.paramFindings ∨
    f ∈ ParamTag.capitalFindings e.reading.params ∨ f ∈ e.returnFindings ∨
    f ∈ e.comment.descriptionFindings ∨ f ∈ e.comment.capitalFindings := by
  simp only [findings, List.mem_append, List.mem_ite_nil_left, List.mem_ite_nil_right] at h
  rcases h with ((⟨-, h | h⟩ | ⟨-, -, h⟩) | h) | h
  · exact .inl h
  · exact .inr (.inl h)
  · exact .inr (.inr (.inl h))
  · exact .inr (.inr (.inr (.inl h)))
  · exact .inr (.inr (.inr (.inr h)))

theorem check_of_mem_findings (h : f ∈ e.findings) : f.check ∈ contentChecks := by
  simp only [contentChecks, List.mem_append]
  rcases mem_findings h with h | h | h | h | h
  · exact .inl (.inl (.inl (Reading.check_of_mem_paramFindings h)))
  · exact .inr (ParamTag.check_of_mem_capitalFindings h)
  · exact .inl (.inl (.inr (check_of_mem_returnFindings h)))
  · exact .inl (.inr (DocComment.check_of_mem_descriptionFindings h))
  · exact .inr (DocComment.check_of_mem_capitalFindings h)

end Evidence

/-- What there is to say about the place of a comment is said by one of its
checks. -/
theorem Opening.Found.exists_check_of_mem {vs : List Violation}
    (h : Opening.Found reader s i (.closed vs)) (hv : v ∈ vs) :
    ∃ check ∈ Check.ofFunction, v.IsOf check := by
  cases h with
  | bodiless => cases hv
  | missing w h =>
    obtain rfl := List.mem_singleton.1 hv
    exact ⟨.commentMissing, by decide, Check.isOf_of_report h rfl⟩
  | wrongStyle w j hbody hkind h =>
    obtain rfl := List.mem_singleton.1 hv
    exact ⟨.commentWrongStyle, by decide, Check.isOf_of_report h rfl⟩
  | unreadable w j hdoc reason h =>
    obtain rfl := List.mem_singleton.1 hv
    exact ⟨.commentUnreadable, by decide, Check.isOf_of_report h rfl⟩
  | empty w j hdoc h =>
    obtain rfl := List.mem_singleton.1 hv
    exact ⟨.commentEmpty, by decide, Check.isOf_of_report h rfl⟩

/-- Every violation of a verdict on a function is one of a check of function
comments. -/
theorem FunctionRule.exists_check_of_mem {rule : FunctionRule} {vs : List Violation}
    (h : rule.check s i = .ok vs) (hv : v ∈ vs) : ∃ check ∈ Check.ofFunction, v.IsOf check := by
  by_cases ha : IsAnchored s i
  · have hsteps := h
    rw [check_eq_runSteps ha] at hsteps
    obtain ⟨opening, hop, -⟩ := exists_of_bind hsteps
    cases opening with
    | closed ws =>
      rw [runSteps_closed hop, Except.ok.injEq] at hsteps
      exact (Opening.found hop).exists_check_of_mem (hsteps ▸ hv)
    | opened u =>
      cases Opening.found hop with
      | opened _ n j t hindex ht hdoc hcomment hread =>
        subst hindex
        obtain ⟨e, -, -, rfl⟩ := exists_findings ha ht hop hread h
        obtain ⟨f, hf, rfl⟩ := List.mem_map.1 hv
        have hcontent : ∀ check ∈ contentChecks, check ∈ Check.ofFunction := by decide
        exact ⟨f.check, hcontent _ (Evidence.check_of_mem_findings hf), u.isOf_violation f⟩
  · rw [check_of_not_isAnchored ha, Except.ok.injEq] at h
    rw [← h] at hv
    cases hv

theorem EndOfFile.exists_check_of_mem {vs : List Violation} (h : EndOfFile.check s i = .ok vs)
    (hv : v ∈ vs) : ∃ check ∈ Check.ofEndOfFile, v.IsOf check := by
  have hreport : ∀ (check : Check) (j : Int) (args : List String), args.length = check.slots →
      (do return [← check.report s j args] : Except Fault (List Violation)) = .ok vs →
        v.IsOf check := fun check j args hfits hdo => by
    obtain ⟨w, hw, hdo⟩ := exists_of_bind hdo
    obtain rfl := Except.ok.inj hdo
    obtain rfl := List.mem_singleton.1 hv
    exact Check.isOf_of_report hw hfits
  unfold EndOfFile.check at h
  split at h
  · obtain rfl := Except.ok.inj h
    cases hv
  · split at h
    · obtain rfl := Except.ok.inj h
      cases hv
    · obtain ⟨last, -, h⟩ := exists_of_bind h
      obtain ⟨code, -, h⟩ := exists_of_bind h
      simp only at h
      split at h
      · exact ⟨.endBlankLineMissing, by decide, hreport _ _ _ rfl h⟩
      · split at h
        · exact ⟨.endTooManyBlankLines, by decide, hreport _ _ _ rfl h⟩
        · obtain rfl := Except.ok.inj h
          cases hv

end DocLint
