import DocLint.Proofs.Rule.Opening

/-!
# What the extended checks change

All checks of a function's comment make two complaints that the baseline checks
do not make, about first letters. Apart from those they find what the baseline
checks find, in the same order, save for what their exemptions drop: everything
about tags if the comment inherits its text, and everything about the return tag
if no return statement of the function gives a value.

Results:
* `Evidence.findings_without`, `Evidence.baselineFindings_without`: the findings
  without the additional ones, and the baseline findings without those about the
  return tag.
* `check_extends`: the verdicts on a function of a file.
-/
namespace DocLint

open TokenSequence

/-! ## Which checks fail -/

def paramChecks : List Check :=
  [.paramNameMismatch, .paramNameCaseMismatch, .paramExtra, .paramNameMissing,
    .paramCommentMissing, .paramTagMissing]

def returnChecks : List Check := [.returnMissing, .returnValueMissing]

def descriptionChecks : List Check :=
  [.shortMissing, .spacingBeforeShort, .spacingBetween, .spacingBeforeTags]

/-- The checks that are not among the baseline checks. -/
def capitalChecks : List Check := [.commentNotCapitalized, .paramCommentNotCapitalized]

namespace Finding

/-- The findings of other checks than the given ones. -/
def without (checks : List Check) (fs : List Finding) : List Finding :=
  fs.filter fun f => !checks.contains f.check

variable {checks : List Check} {fs gs : List Finding}

@[simp] theorem without_nil : without checks [] = [] := rfl

@[simp] theorem without_append :
    without checks (fs ++ gs) = without checks fs ++ without checks gs := List.filter_append ..

theorem without_eq_self (h : ∀ f ∈ fs, f.check ∉ checks) : without checks fs = fs :=
  List.filter_eq_self.2 fun f hf => by simpa using h f hf

theorem without_eq_nil (h : ∀ f ∈ fs, f.check ∈ checks) : without checks fs = [] :=
  List.filter_eq_nil_iff.2 fun f hf => by simpa using h f hf

end Finding

namespace ParamTag

theorem check_of_mem_findings {position : Nat} {real : Option String} {tag : ParamTag}
    {f : Finding} (h : f ∈ tag.findings position real) : f.check ∈ paramChecks := by
  have hsub : ∀ check ∈ checks, check ∈ paramChecks := by decide
  exact hsub _ (of_mem_findings h).1

theorem check_of_mem_capitalFindings {params : List ParamTag} {f : Finding}
    (h : f ∈ capitalFindings params) : f.check ∈ capitalChecks := by
  obtain ⟨tag, -, rfl⟩ := List.mem_map.1 h
  simp [capitalChecks]

end ParamTag

namespace DocComment

variable {c : DocComment} {f : Finding}

theorem check_of_mem_capitalFindings (h : f ∈ c.capitalFindings) : f.check ∈ capitalChecks := by
  unfold capitalFindings at h
  split at h
  · cases h
  · obtain rfl := List.mem_singleton.1 h
    simp [capitalChecks]

theorem check_of_mem_descriptionFindings (h : f ∈ c.descriptionFindings) :
    f.check ∈ descriptionChecks := by
  unfold descriptionFindings at h
  split at h
  · obtain rfl := List.mem_singleton.1 h
    simp [descriptionChecks]
  · simp only [List.mem_append, List.mem_ite_nil_right, List.mem_singleton] at h
    rcases h with (⟨-, rfl⟩ | ⟨-, rfl⟩) | ⟨-, rfl⟩ <;> simp [descriptionChecks]

end DocComment

namespace Reading

variable {reading : Reading} {f : Finding}

theorem check_of_mem_paramFindings {real : List String} {line : Int}
    (h : f ∈ reading.paramFindings real line) : f.check ∈ paramChecks := by
  simp only [paramFindings, List.mem_append, List.mem_flatMap, List.mem_map] at h
  rcases h with ⟨tag, -, h⟩ | ⟨name, -, rfl⟩
  · exact ParamTag.check_of_mem_findings h
  · simp [paramChecks]

theorem check_of_mem_returnFindings {line : Int} (h : f ∈ reading.returnFindings line) :
    f.check ∈ returnChecks := by
  unfold returnFindings at h
  split at h
  · obtain rfl := List.mem_singleton.1 h
    simp [returnChecks]
  · split at h
    · obtain rfl := List.mem_singleton.1 h
      simp [returnChecks]
    · cases h

end Reading

/-! ## The findings of both sets of checks -/

namespace Evidence

open Finding

variable {e : Evidence} {f : Finding}

theorem check_of_mem_returnFindings (h : f ∈ e.returnFindings) : f.check ∈ returnChecks := by
  unfold returnFindings at h
  split at h
  · cases h
  · exact Reading.check_of_mem_returnFindings h

/-- Findings of checks that are not among the given ones. -/
theorem without_of_disjoint {checks others : List Check} (h : ∀ c ∈ others, c ∉ checks)
    {fs : List Finding} (hfs : ∀ f ∈ fs, f.check ∈ others) : without checks fs = fs :=
  without_eq_self fun f hf => h f.check (hfs f hf)

/-- What all checks find, apart from what only they look for. -/
theorem findings_without (e : Evidence) : without capitalChecks e.findings =
    (if e.comment.inherits then [] else e.paramFindings) ++
    (if e.comment.inherits then [] else if e.returnsValue then e.returnFindings else []) ++
    e.comment.descriptionFindings := by
  have hparam : without capitalChecks e.paramFindings = e.paramFindings :=
    without_of_disjoint (by decide) fun f => Reading.check_of_mem_paramFindings
  have hreturn : without capitalChecks e.returnFindings = e.returnFindings :=
    without_of_disjoint (by decide) fun f => check_of_mem_returnFindings
  have hdescription : without capitalChecks e.comment.descriptionFindings =
      e.comment.descriptionFindings :=
    without_of_disjoint (by decide) fun f => DocComment.check_of_mem_descriptionFindings
  have hcapital : without capitalChecks e.comment.capitalFindings = [] :=
    without_eq_nil fun f => DocComment.check_of_mem_capitalFindings
  have htags : without capitalChecks (ParamTag.capitalFindings e.reading.params) = [] :=
    without_eq_nil fun f => ParamTag.check_of_mem_capitalFindings
  simp only [findings, without_append, apply_ite (without capitalChecks), without_nil, hparam,
    hreturn, hdescription, hcapital, htags, List.append_nil]

/-- What the baseline checks find, apart from the return tag. -/
theorem baselineFindings_without (e : Evidence) : without returnChecks e.baselineFindings =
    e.paramFindings ++ e.comment.descriptionFindings := by
  have hparam : without returnChecks e.paramFindings = e.paramFindings :=
    without_of_disjoint (by decide) fun f => Reading.check_of_mem_paramFindings
  have hreturn : without returnChecks e.returnFindings = [] :=
    without_eq_nil fun f => check_of_mem_returnFindings
  have hdescription : without returnChecks e.comment.descriptionFindings =
      e.comment.descriptionFindings :=
    without_of_disjoint (by decide) fun f => DocComment.check_of_mem_descriptionFindings
  simp only [baselineFindings, without_append, hparam, hreturn, hdescription, List.append_nil]

/-- Nothing is found that the baseline checks do not find in the same order. -/
theorem findings_without_sublist (e : Evidence) :
    (without capitalChecks e.findings).Sublist e.baselineFindings := by
  rw [findings_without, baselineFindings]
  refine ((?_ : List.Sublist _ _).append ?_).append (List.Sublist.refl _)
  · split
    · exact List.nil_sublist _
    · exact List.Sublist.refl _
  · split
    · exact List.nil_sublist _
    · split
      · exact List.Sublist.refl _
      · exact List.nil_sublist _

end Evidence

/-! ## The verdicts -/

/-- The violations with other codes than those of the given checks. -/
def Violation.without (checks : List Check) (vs : List Violation) : List Violation :=
  vs.filter fun v => !(checks.map Check.code).contains v.code

theorem Violation.without_map (u : Subject) (checks : List Check) (fs : List Finding) :
    Violation.without checks (fs.map u.violation) =
      (Finding.without checks fs).map u.violation := by
  unfold Violation.without Finding.without
  rw [List.filter_map]
  congr 2
  funext f
  have hcode : f.check.code ∈ checks.map Check.code ↔ f.check ∈ checks :=
    List.mem_map_of_injective fun a b => Check.code_injective
  simp only [Function.comp, Subject.violation, List.contains_eq_mem, hcode]

/-- Where there is nothing to check further, all violations stay. -/
theorem Violation.without_eq_self {vs : List Violation}
    (h : ∀ v ∈ vs, ∃ check ∈ openingChecks, v.code = check.code) :
    Violation.without capitalChecks vs = vs := by
  refine List.filter_eq_self.2 fun v hv => ?_
  obtain ⟨check, hcheck, hcode⟩ := h v hv
  have hother : ∀ check ∈ openingChecks, (capitalChecks.map Check.code).contains check.code = false := by
    decide
  rw [hcode, hother check hcheck]
  rfl

/-- Whether some return keyword in the scope of a function has an expression
after it. -/
def TokenSequence.ReturnsValue (s : TokenSequence) (t : Token) : Prop :=
  ∃ o c : Int, t.extent.scopeOpener = some o ∧ t.extent.scopeCloser = some c ∧
    ∃ r : Nat, o ≤ r ∧ r ≤ c ∧ s.tokens[r]?.any (·.kind == .returnKeyword) = true ∧
      s.givesValue r = true

variable {s : TokenSequence} {n : Nat} {t : Token}

theorem functionReturns_iff (hs : t.extent.Sound s n) :
    s.functionReturns t = true ↔ s.ReturnsValue t := by
  unfold functionReturns ReturnsValue
  cases ho : t.extent.scopeOpener with
  | none => simp
  | some o =>
    cases hc : t.extent.scopeCloser with
    | none => simp
    | some c =>
      obtain ⟨h1, h2, h3, -⟩ := hs.scope o c ho hc
      obtain ⟨o, rfl⟩ := Int.eq_ofNat_of_zero_le (show 0 ≤ o by omega)
      obtain ⟨c, rfl⟩ := Int.eq_ofNat_of_zero_le (show 0 ≤ c by omega)
      simp only [returnsValue_iff]
      constructor
      · rintro ⟨r, h4, h5, hr, hv⟩
        exact ⟨o, c, rfl, rfl, r, by omega, by omega, hr, hv⟩
      · rintro ⟨o', c', ho', hc', r, h4, h5, hr, hv⟩
        rw [Option.some.injEq] at ho' hc'
        exact ⟨r, by omega, by omega, hr, hv⟩

/-- The verdict of all checks on a function of a file, without the complaints
that only they make, is part of the verdict of the baseline checks, in the same
order. It is the same if there is nothing to check further. Otherwise it is what
the checks of the description say, if the comment inherits its text; the same,
if the function returns a value; and the same without the complaints about the
return tag, if it does not. -/
theorem check_extends (xs : List Lexeme) (rule : FunctionRule) (n : Nat) (t : Token)
    (ht : (ofLexemes xs).tokens[n]? = some t) (hkind : t.kind = .function)
    (vs ws : List Violation) (hvs : rule.check (ofLexemes xs) n = .ok vs)
    (hws : rule.checkBaseline (ofLexemes xs) n = .ok ws) :
    (Violation.without capitalChecks vs).Sublist ws ∧
    (∀ closed, Opening.ofFunction rule.reader (ofLexemes xs) n = .ok (.closed closed) →
      Violation.without capitalChecks vs = ws) ∧
    ∀ u c, Opening.ofFunction rule.reader (ofLexemes xs) n = .ok (.opened u) →
      u.reading.comment = some c →
      (c.inherits = true → u.checkDescription = .ok (Violation.without capitalChecks vs)) ∧
      (c.inherits = false → (ofLexemes xs).ReturnsValue t →
        Violation.without capitalChecks vs = ws) ∧
      (c.inherits = false → ¬(ofLexemes xs).ReturnsValue t →
        Violation.without capitalChecks vs = Violation.without returnChecks ws) := by
  have hs : t.extent.Sound (ofLexemes xs) n :=
    sound_of_token ht (by simp [Token.isDeclaration, hkind])
  have ha : FunctionRule.IsAnchored (ofLexemes xs) n := isAnchored_of_function ht hkind
  have houtcome := Opening.ofFunction_outcome rule.reader ht hs
  generalize hop : Opening.ofFunction rule.reader (ofLexemes xs) n = opening at houtcome ⊢
  cases houtcome with
  | failed j d hd hkind fault hread hfault =>
    rw [FunctionRule.checkBaseline, FunctionRule.runSteps, hop] at hws
    cases hws
  | closed closed hcodes =>
    rw [FunctionRule.check_eq_runSteps ha, FunctionRule.runSteps_closed hop, Except.ok.injEq] at hvs
    rw [FunctionRule.checkBaseline, FunctionRule.runSteps_closed hop, Except.ok.injEq] at hws
    subst hvs hws
    have hsame := Violation.without_eq_self hcodes
    refine ⟨by rw [hsame], fun _ _ => hsame, fun u c hu => ?_⟩
    cases hu
  | opened u hu =>
    obtain ⟨e, he, hreturns⟩ := hu.exists_evidence rule ht hs
    rw [FunctionRule.check_opened ha hop he, Except.ok.injEq] at hvs
    rw [FunctionRule.checkBaseline_opened hop he, Except.ok.injEq] at hws
    subst hvs hws
    rw [Violation.without_map, Violation.without_map]
    refine ⟨(Evidence.findings_without_sublist e).map _, fun closed hclosed => ?_,
      fun u' c hu' hc => ?_⟩
    · cases hclosed
    · obtain rfl : u = u' := by simpa using hu'
      obtain rfl : e.comment = c := by simpa [he.comment] using hc
      rw [Evidence.findings_without, Evidence.baselineFindings_without]
      refine ⟨fun hi => ?_, fun hi hr => ?_, fun hi hr => ?_⟩
      · simp only [hi, if_true, List.nil_append]
        exact Subject.checkDescription_findings he.comment
      · rw [← functionReturns_iff hs, ← hreturns] at hr
        simp only [hi, hr, Bool.false_eq_true, if_false, if_true]
        rfl
      · rw [← functionReturns_iff hs, ← hreturns] at hr
        simp only [hi, hr, Bool.false_eq_true, if_false, List.append_nil]

/-- A rule that reads the same description, which starts with a lower-case
letter, from every comment. -/
def plainRule : FunctionRule where
  reader := fun _ => .ok { comment := some { content := "d", line := 0, shortDescription := "d" } }
  ignoredParams := []
  exemptFunctions := []

/-- The function of the small file gives no value, so the baseline checks alone
ask for a return tag, and the extended checks alone for an upper-case letter. -/
theorem smallFile_extends : ∃ v w : Violation, v.code ≠ w.code ∧
    plainRule.check (ofLexemes smallFile) 1 = .ok [v] ∧
    plainRule.checkBaseline (ofLexemes smallFile) 1 = .ok [w] ∧
    (Violation.without capitalChecks [v]).Sublist [w] := by
  have ht : (ofLexemes smallFile).tokens[1]? =
      some ⟨.function, "def", 1, 0, ⟨some 5, some 9, some 3, some 4⟩⟩ := by decide
  have hv : plainRule.check (ofLexemes smallFile) 1 =
      .ok [⟨Check.commentNotCapitalized.code, Check.commentNotCapitalized.template, 8, 2, []⟩] := by
    decide
  have hw : plainRule.checkBaseline (ofLexemes smallFile) 1 =
      .ok [⟨Check.returnMissing.code, Check.returnMissing.template, 8, 2, []⟩] := by decide
  exact ⟨_, _, by decide, hv, hw, (check_extends smallFile plainRule 1 _ ht rfl _ _ hv hw).1⟩

end DocLint
